import FirmwareHeader.CommandLine.Spelling
import FirmwareHeader.Files.Tree
import FirmwareHeader.Main
import FirmwareHeader.Numeral.Grammar
import FirmwareHeader.Proofs.Header.Comparison
import FirmwareHeader.Proofs.Image.Refinement
import FirmwareHeader.Proofs.Job.Sequence
import FirmwareHeader.Proofs.Job.Transcript
import FirmwareHeader.Proofs.Machine.Calls
import FirmwareHeader.Proofs.Numeral.Refusal
import FirmwareHeader.Proofs.Program.Arrangement
import FirmwareHeader.Proofs.Program.Exit
import FirmwareHeader.Proofs.Header.Flags
import FirmwareHeader.Proofs.Header.Payload
import FirmwareHeader.Proofs.Header.Extension
import FirmwareHeader.Proofs.Numeral.Digits
import FirmwareHeader.Proofs.Text.Quoted
import FirmwareHeader.Proofs.Failure.Report
import FirmwareHeader.Proofs.Numeral.Printed
import FirmwareHeader.Proofs.Header.Alignment

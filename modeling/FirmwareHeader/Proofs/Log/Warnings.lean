import FirmwareHeader.Log.Line

namespace FirmwareHeader.Log

def warnings (records : List Record) : List Record :=
  records.filter fun record => record.level = .warn

theorem Record.level_cases (record : Record) : record.level = .warn ∨ record.level = .debug := by
  cases record with
  | noticed notice => cases notice <;> simp [Record.level]
  | opened size path => exact .inr rfl
  | written aligned raw version patchLevel => exact .inr rfl
  | header fields => exact .inr rfl

variable {threshold : Threshold}

theorem admits_of_quiet (h : threshold = none ∨ threshold = some .error) (record : Record) :
    threshold.admits record.level = false := by
  rcases h with rfl | rfl <;> rcases record.level_cases with hlevel | hlevel <;> rw [hlevel] <;> rfl

theorem admits_of_usual (h : threshold = some .warn ∨ threshold = some .info) (record : Record) :
    threshold.admits record.level = decide (record.level = .warn) := by
  rcases h with rfl | rfl <;> rcases record.level_cases with hlevel | hlevel <;> rw [hlevel] <;> rfl

theorem admitted_of_quiet (h : threshold = none ∨ threshold = some .error)
    (records : List Record) : admitted threshold records = [] := by
  rw [admitted, List.filter_eq_nil_iff]
  intro record _
  rw [admits_of_quiet h]
  exact Bool.false_ne_true

theorem admitted_of_usual (h : threshold = some .warn ∨ threshold = some .info)
    (records : List Record) : admitted threshold records = warnings records :=
  List.filter_congr fun record _ => admits_of_usual h record

end FirmwareHeader.Log

import RegistryLoad.Settings.Basic

/-!
# Checking settings

The reasons for which settings are refused, their wording, and the order in which they are
looked for: the first one found is reported.
-/

namespace RegistryLoad

open RegistryLoad.Text

/-- Why settings, or a text that should give one, are refused. -/
inductive SettingsError where
  /-- Not a rate; the text without the blanks around it. -/
  | invalidRate (text : String)
  /-- A rate of zero, by its name. -/
  | zeroRate (name : String)
  /-- Not a time span; the text without the blanks around it. -/
  | invalidDuration (text : String)
  /-- A time span of zero, by its name. -/
  | zeroDuration (name : String)
  /-- The pool holds fewer instances than the registry target. -/
  | poolTooSmall (pool target : UInt64)
  /-- The pool holds more instances than a run prepares. -/
  | poolTooLarge (pool limit : UInt64)
  /-- No application to register instances of. -/
  | noApplications
  deriving DecidableEq, Repr

/-- The wording of an error. -/
def SettingsError.message : SettingsError → String
  | .invalidRate text => "Invalid rate '" ++ text ++ "': expected N, N/s, N/m or N/h"
  | .zeroRate name => name ++ " must be greater than zero"
  | .invalidDuration text => "Invalid duration: " ++ text
  | .zeroDuration name => name ++ " must be greater than zero"
  | .poolTooSmall pool target =>
    String.ofList ("Service pool of ".toList ++ decimal pool.toNat ++
      " instances cannot reach the registry target of ".toList ++ decimal target.toNat)
  | .poolTooLarge pool limit =>
    String.ofList ("Service pool of ".toList ++ decimal pool.toNat ++
      " instances exceeds the limit of ".toList ++ decimal limit.toNat)
  | .noApplications => "At least one application is required"

/-! ## Typed texts -/

/-- Reads a rate, or says what was typed instead. -/
def readRate (text : String) : Except SettingsError Rate :=
  match Rate.read? text.toList with
  | some rate => .ok rate
  | none => .error (.invalidRate (String.ofList (trim text.toList)))

/-- Reads a time span, or says what was typed instead. -/
def readTimeSpan (text : String) : Except SettingsError TimeSpan :=
  match TimeSpan.read? text.toList with
  | some span => .ok span
  | none => .error (.invalidDuration (String.ofList (trim text.toList)))

/-- The schedule of a rate; a rate of zero is reported under the given name. -/
def scheduleOf (name : String) (rate : Rate) : Except SettingsError Schedule :=
  match Schedule.ofRate? rate with
  | some schedule => .ok schedule
  | none => .error (.zeroRate name)

namespace Settings

/-- What the two rates are called in messages. -/
def registrationRateName : String := "Registration rate"
def interestRateName : String := "Interest subscription rate"

def registrationSchedule (s : Settings) : Except SettingsError Schedule :=
  scheduleOf registrationRateName s.registrationRate

def interestSchedule (s : Settings) : Except SettingsError Schedule :=
  scheduleOf interestRateName s.interestRate

/-- The conditions under which settings are refused, in the order of their report. -/
def objections (s : Settings) : List (Bool × SettingsError) :=
  [(s.registrationRate.count == 0, .zeroRate registrationRateName),
   (s.interestRate.count == 0, .zeroRate interestRateName),
   (s.duration.isZero, .zeroDuration "Test duration"),
   (s.boardPeriod.isZero, .zeroDuration "Score board interval"),
   (s.applications == 0, .noApplications),
   (s.poolSize < s.registryTarget, .poolTooSmall s.poolSize s.registryTarget),
   (maxPoolSize < s.poolSize, .poolTooLarge s.poolSize maxPoolSize)]

/-- The first objection to the settings, if there is one. -/
def objection? (s : Settings) : Option SettingsError :=
  (s.objections.find? (·.1)).map (·.2)

/-- Accepts settings without an objection. -/
def check (s : Settings) : Except SettingsError Unit :=
  match s.objection? with
  | some e => .error e
  | none => .ok ()

/-- Settings pass if there is nothing to object to. -/
theorem check_eq_ok_iff (s : Settings) :
    s.check = .ok () ↔ ∀ o ∈ s.objections, o.1 = false := by
  unfold check objection?
  cases hfound : s.objections.find? (·.1) with
  | none =>
    have hall := List.find?_eq_none.mp hfound
    simp only [Option.map_none, true_iff]
    exact fun o ho => Bool.not_eq_true _ ▸ hall o ho
  | some o =>
    have hobjected := List.find?_some hfound
    have hmem := List.mem_of_find?_eq_some hfound
    constructor
    · intro hok
      cases hok
    · intro hall
      rw [hall o hmem] at hobjected
      cases hobjected

end Settings

/-- A rate that is not zero has a schedule. -/
theorem scheduleOf_ok (name : String) {rate : Rate} (h : rate.count ≠ 0) :
    ∃ schedule, scheduleOf name rate = .ok schedule := by
  unfold scheduleOf
  cases hs : Schedule.ofRate? rate with
  | none => exact absurd ((Schedule.ofRate?_eq_none_iff rate).mp hs) h
  | some schedule => exact ⟨schedule, rfl⟩

end RegistryLoad

import Mathlib.Data.List.Nodup
import Mathlib.Data.List.TakeWhile
import RegistryLoad.CommandLine.Program
import RegistryLoad.Proofs.CommandLine.Texts

/-!
# Where settings come from

A setting has the value of its option if the option is given, else that of its variable, and else
the standard one.  In which order options are given and how their values are spelled makes no
difference, and a variable whose option is given is not looked at.

## Definitions

* `CommandLine.Item`: an option with its value, or the flag, in one of their spellings.
* `CommandLine.textOf`: the text that counts for a setting.
* `CommandLine.Sensible`: nothing is given twice, and every text that counts suits its setting.
* `Progress.Tells`: what was read so far.

## Results

* `Progress.Tells.next_option`, `Progress.Tells.next_flag`: one item.
* `CommandLine.read_items`: all items, told to the choices one after the other.
* `CommandLine.lookUp_all`: the environment tells what was not told.
* `CommandLine.read_sensible`: what command line and environment say together.
* `Program.prepare_sensible`: the settings that they ask for.
-/

namespace RegistryLoad

variable {texts : Field → Option String} {f : Field} {text : String}

namespace CommandLine

/-! ## Items -/

/-- How the value of an option is spelled: in an argument of its own, or behind an equals sign. -/
inductive Spelling where
  | apart
  | joined
  deriving DecidableEq, Repr

/-- What a command line consists of.  The flag is its name or its letter. -/
inductive Item where
  | option (field : Field) (text : String) (spelling : Spelling)
  | verbose (short : Bool)
  deriving DecidableEq, Repr

namespace Item

/-- The arguments of an item. -/
def args : Item → List String
  | option f text .apart => ["--" ++ f.name, text]
  | option f text .joined => ["--" ++ f.name ++ "=" ++ text]
  | verbose false => ["--verbose"]
  | verbose true => ["-v"]

/-- What an item says, however it is spelled: a setting and its text; nothing if it is the flag. -/
def said? : Item → Option (Field × String)
  | option f text _ => some (f, text)
  | verbose _ => none

/-- What an item is about. -/
def subject? (item : Item) : Option Field := item.said?.map (·.1)

/-- A value in an argument of its own begins with no dash, unless it is one. -/
def isClear : Item → Bool
  | option _ text .apart => text.toList.head? != some '-' || text == "-"
  | _ => true

end Item

/-- The text that the items give to a setting. -/
def given? (items : List Item) (f : Field) : Option String :=
  (items.findSome? fun item => item.said?.filter (·.1 == f)).map (·.2)

/-- The text that counts for a setting. -/
def textOf (items : List Item) (env : Environment) (f : Field) : Option String :=
  (given? items f).or (env f.envVariable)

/-- Whether more than usual is to be reported. -/
def isVerbose (items : List Item) : Bool := items.any fun item => item.said?.isNone

/-- Nothing is given twice, all values are clear, and all texts that count suit their settings. -/
structure Sensible (items : List Item) (env : Environment) : Prop where
  once : (items.map Item.subject?).Nodup
  clear : ∀ item ∈ items, item.isClear = true
  suit : AllSuit (textOf items env)

/-! ## Forms of arguments -/

/-- The options have names, none with an equals sign. -/
theorem name_plain (f : Field) : f.name.toList ≠ [] ∧ '=' ∉ f.name.toList := by
  cases f <;> decide

theorem named?_name (f : Field) : Field.named? f.name = some f := by
  cases f <;> decide

theorem ofText_dashes {rest : List Char} (some : rest ≠ []) :
    Argument.ofText (String.ofList ('-' :: '-' :: rest)) =
      .long (String.ofList (Text.splitFirst '=' rest).1)
        ((Text.splitFirst '=' rest).2.map String.ofList) := by
  cases rest with
  | nil => exact absurd rfl some
  | cons c rest => simp [Argument.ofText]

theorem ofText_apart (f : Field) : Argument.ofText ("--" ++ f.name) = .long f.name none := by
  obtain ⟨some, plain⟩ := name_plain f
  have text : "--" ++ f.name = String.ofList ('-' :: '-' :: f.name.toList) := by
    apply String.toList_injective
    simp
  rw [text, ofText_dashes some, Text.splitFirst_of_notMem plain]
  simp

theorem ofText_joined (f : Field) (text : String) :
    Argument.ofText ("--" ++ f.name ++ "=" ++ text) = .long f.name (some text) := by
  obtain ⟨-, plain⟩ := name_plain f
  have whole : "--" ++ f.name ++ "=" ++ text
      = String.ofList ('-' :: '-' :: (f.name.toList ++ '=' :: text.toList)) := by
    apply String.toList_injective
    simp
  rw [whole, ofText_dashes (by simp), Text.splitFirst_append plain]
  simp

theorem ofText_clear (h : (Item.option f text .apart).isClear = true) :
    Argument.ofText text = .plain := by
  simp only [Item.isClear, Bool.or_eq_true, bne_iff_ne, beq_iff_eq] at h
  rcases h with other | rfl
  · unfold Argument.ofText
    split <;> simp_all
  · rfl

/-! ## Reading the items -/

namespace Progress

/-- The reading of a command line that has said these texts, with nothing pending. -/
def told (texts : Field → Option String) (verbose : Bool) : Progress :=
  { choices := .ofTexts texts, verbose := verbose }

variable {p : Progress} {verbose : Bool}

/-- All that was read tells these texts, if what is pending is counted in. -/
structure Tells (p : Progress) (texts : Field → Option String) (verbose : Bool) : Prop where
  unseparated : p.separated = false
  flushed : p.flush = .ok (told texts verbose)

theorem choose_told (suit : AllSuit texts) (new : texts f = none) (suits : f.suits text = true) :
    (told texts verbose).choose f text
      = .ok (told (Function.update texts f (some text)) verbose) := by
  simp [choose, told, Choices.has_ofTexts suit, new, Choices.set?_ofTexts suits]

/-- An option with its value is told to the choices, however it is spelled. -/
theorem Tells.next_option (tells : p.Tells texts verbose) (suit : AllSuit texts)
    (new : texts f = none) (suits : f.suits text = true) {spelling : Spelling}
    (clear : (Item.option f text spelling).isClear = true) :
    ∃ p', (Item.option f text spelling).args.foldlM next p = .ok p' ∧
      p'.Tells (Function.update texts f (some text)) verbose := by
  have chosen : (told texts verbose).choose f text
      = .ok (told (Function.update texts f (some text)) verbose) := choose_told suit new suits
  obtain ⟨unseparated, flushed⟩ := tells
  cases spelling with
  | apart =>
    -- The value is only looked at by what comes behind it.
    refine ⟨{ told texts verbose with pending := some (f, some text) }, ?_, rfl, chosen⟩
    simp [Item.args, next, unseparated, ofText_apart, ofText_clear clear, long, named?_name,
      flushed, plain, told, bind, Except.bind, pure, Except.pure]
  | joined =>
    refine ⟨told (Function.update texts f (some text)) verbose, ?_, rfl, rfl⟩
    simp [Item.args, next, unseparated, ofText_joined, long, named?_name, flushed, chosen, bind,
      Except.bind, pure, Except.pure]

/-- The flag is raised, by its name or by its letter. -/
theorem Tells.next_flag (tells : p.Tells texts false) (short : Bool) :
    ∃ p', (Item.verbose short).args.foldlM next p = .ok p' ∧ p'.Tells texts true := by
  obtain ⟨unseparated, flushed⟩ := tells
  have raised : p.raise .verbose = .ok (told texts true) := by
    simp [raise, flushed, told, bind, Except.bind, pure, Except.pure]
  refine ⟨told texts true, ?_, rfl, rfl⟩
  cases short with
  | false =>
    have form : Argument.ofText "--verbose" = .long "verbose" none := by decide
    have field : Field.named? "verbose" = none := by decide
    have flag : Flag.named? "verbose" = some .verbose := by decide
    simp [Item.args, next, unseparated, form, long, field, flag, raised, bind, Except.bind, pure,
      Except.pure]
  | true =>
    have form : Argument.ofText "-v" = .short ['v'] := by decide
    have flag : Flag.ofLetter? 'v' = some .verbose := by decide
    simp [Item.args, next, unseparated, form, short, flag, raised, bind, Except.bind, pure,
      Except.pure]

end Progress

section

variable {items : List Item} {env : Environment} {p : Progress} {verbose : Bool}

theorem given?_option (f : Field) (text : String) (spelling : Spelling) (items : List Item)
    (g : Field) :
    given? (.option f text spelling :: items) g = if f = g then some text else given? items g := by
  by_cases same : f = g
  · simp [given?, Item.said?, same]
  · simp [given?, Item.said?, same]

theorem given?_verbose (short : Bool) (items : List Item) (g : Field) :
    given? (.verbose short :: items) g = given? items g := by
  simp [given?, Item.said?]

theorem given?_of_notMem (absent : some f ∉ items.map Item.subject?) : given? items f = none := by
  induction items with
  | nil => rfl
  | cons item items ih =>
    rw [List.map_cons, List.mem_cons, not_or] at absent
    cases item with
    | option g other spelling =>
      have differs : g ≠ f := by
        rintro rfl
        exact absent.1 rfl
      rw [given?_option, if_neg differs, ih absent.2]
    | verbose short => rw [given?_verbose, ih absent.2]

/-- The text that is given to a setting is the one of its only option. -/
theorem given?_eq_some_iff (once : (items.map Item.subject?).Nodup) :
    given? items f = some text ↔ some (f, text) ∈ items.map Item.said? := by
  induction items with
  | nil => simp [given?]
  | cons item items ih =>
    obtain ⟨fresh, distinct⟩ := List.nodup_cons.mp once
    cases item with
    | option g other spelling =>
      rw [given?_option, List.map_cons, List.mem_cons, ← ih distinct]
      by_cases same : g = f
      · subst same
        simp [Item.said?, given?_of_notMem fresh, eq_comm]
      · simp [Item.said?, same, Ne.symm same]
    | verbose short =>
      rw [given?_verbose, ih distinct]
      simp [Item.said?]

/-- **The items are told to the choices**, one after the other: in the end all of them count that
were given, and what was said before of all others. -/
theorem read_items (once : (items.map Item.subject?).Nodup)
    (clear : ∀ item ∈ items, item.isClear = true) (given : AllSuit (given? items))
    (suit : AllSuit texts) (new : ∀ f, some f ∈ items.map Item.subject? → texts f = none)
    (calm : none ∈ items.map Item.subject? → verbose = false) (tells : p.Tells texts verbose) :
    ∃ p', (items.flatMap Item.args).foldlM Progress.next p = .ok p' ∧
      p'.Tells (fun f => (given? items f).or (texts f)) (isVerbose items || verbose) := by
  induction items generalizing p texts verbose with
  | nil => exact ⟨p, rfl, tells⟩
  | cons item items ih =>
    obtain ⟨fresh, distinct⟩ := List.nodup_cons.mp once
    have clears : ∀ item ∈ items, item.isClear = true := fun item known =>
      clear item (List.mem_cons_of_mem _ known)
    cases item with
    | option f text spelling =>
      have absent : given? items f = none := given?_of_notMem fresh
      have suits : f.suits text = true := given f text (by rw [given?_option, if_pos rfl])
      have rest : AllSuit (given? items) := by
        intro g other told
        apply given g other
        rw [given?_option, if_neg, told]
        rintro rfl
        rw [absent] at told
        cases told
      obtain ⟨first, read, onward⟩ := tells.next_option suit (new f (by simp [Item.subject?,
        Item.said?])) suits (clear _ List.mem_cons_self)
      obtain ⟨last, reads, told⟩ := ih distinct clears rest (suit.update suits)
        (by
          intro g known
          have other : g ≠ f := by
            rintro rfl
            exact fresh known
          rw [Function.update_of_ne other]
          exact new g (List.mem_cons_of_mem _ known))
        (fun known => calm (List.mem_cons_of_mem _ known)) onward
      refine ⟨last, ?_, ?_⟩
      · rw [List.flatMap_cons, List.foldlM_append, read]
        exact reads
      · have same : (fun g => (given? items g).or (Function.update texts f (some text) g))
            = fun g => (given? (.option f text spelling :: items) g).or (texts g) := by
          funext g
          by_cases own : g = f
          · subst own
            simp [given?_option, absent]
          · simp [given?_option, Function.update_of_ne own, Ne.symm own]
        rw [← same]
        simpa [isVerbose, Item.said?] using told
    | verbose short =>
      have down : verbose = false := calm (by simp [Item.subject?, Item.said?])
      subst down
      have rest : AllSuit (given? items) := by
        simpa [AllSuit, given?_verbose] using given
      obtain ⟨first, read, onward⟩ := tells.next_flag short
      obtain ⟨last, reads, told⟩ := ih distinct clears rest suit
        (fun g known => new g (List.mem_cons_of_mem _ known))
        (fun known => absurd known fresh) onward
      refine ⟨last, ?_, ?_⟩
      · rw [List.flatMap_cons, List.foldlM_append, read]
        exact reads
      · simpa [isVerbose, Item.said?, given?_verbose] using told

/-! ## Reading the environment -/

/-- A variable is told to the choices if its option was not. -/
theorem lookUp_told (suit : AllSuit fun f => (texts f).or (env f.envVariable)) (f : Field) :
    Progress.lookUp env (.told texts verbose) f
      = .ok (.told (Function.update texts f ((texts f).or (env f.envVariable))) verbose) := by
  have said : AllSuit texts := by
    intro g text told
    exact suit g text (by simp [told])
  have has : (Progress.told texts verbose).choices.has f = (texts f).isSome :=
    Choices.has_ofTexts said f
  unfold Progress.lookUp
  rw [has]
  cases given : texts f with
  | some text =>
    have same : Function.update texts f (some text) = texts := by
      rw [← given, Function.update_eq_self]
    simp [same]
  | none =>
    cases value : env f.envVariable with
    | none =>
      have same : Function.update texts f none = texts := by
        rw [← given, Function.update_eq_self]
      simp [same]
    | some text =>
      have suits : f.suits text = true := suit f text (by simp [given, value])
      simpa using Progress.choose_told said given suits

theorem lookUp_each (fs : List Field) (suit : AllSuit fun f => (texts f).or (env f.envVariable)) :
    fs.foldlM (Progress.lookUp env) (.told texts verbose)
      = .ok (.told (fun f => if f ∈ fs then (texts f).or (env f.envVariable) else texts f)
          verbose) := by
  induction fs generalizing texts with
  | nil => simp [pure, Except.pure]
  | cons f fs ih =>
    -- Once a variable was looked at, it would tell nothing new.
    have settled : ∀ g, (Function.update texts f ((texts f).or (env f.envVariable)) g).or
        (env g.envVariable) = (texts g).or (env g.envVariable) := by
      intro g
      by_cases own : g = f
      · subst own
        cases texts g <;> cases env g.envVariable <;> simp
      · rw [Function.update_of_ne own]
    rw [List.foldlM_cons, lookUp_told suit]
    refine (ih (by simpa only [settled] using suit)).trans ?_
    congr 2
    funext g
    by_cases own : g = f
    · subst own
      simp [Option.or_assoc]
    · simp [own]

/-- The environment tells what was not told. -/
theorem lookUp_all (suit : AllSuit fun f => (texts f).or (env f.envVariable)) :
    Field.all.foldlM (Progress.lookUp env) (.told texts verbose)
      = .ok (.told (fun f => (texts f).or (env f.envVariable)) verbose) := by
  have every : ∀ f, f ∈ Field.all := by
    intro f
    cases f <;> decide
  rw [lookUp_each Field.all suit]
  simp [every]

/-- What a sensible command line and an environment say. -/
theorem read_sensible (h : Sensible items env) :
    read (items.flatMap Item.args) env
      = .ok (.ofTexts (textOf items env), isVerbose items) := by
  have given : AllSuit (given? items) := fun f text told =>
    h.suit f text (by simp [textOf, told])
  have silent : Progress.Tells {} (fun _ => none) false := ⟨rfl, rfl⟩
  obtain ⟨p, reads, -, flushed⟩ := read_items h.once h.clear given
    (fun _ _ told => by cases told) (fun _ _ => rfl) (fun _ => rfl) silent
  simp only [Option.or_none, Bool.or_false] at flushed
  have looked : Field.all.foldlM (Progress.lookUp env) (.told (given? items) (isVerbose items))
      = .ok (.told (textOf items env) (isVerbose items)) := lookUp_all h.suit
  simp only [read, reads, flushed, looked, bind, Except.bind]
  rfl

/-! ## Order and spelling -/

variable {items' : List Item} {env' : Environment}

theorem subject?_map (items : List Item) :
    items.map Item.subject? = (items.map Item.said?).map (Option.map (·.1)) := by
  simp [Item.subject?, Function.comp_def]

theorem once_of_perm (once : (items.map Item.subject?).Nodup)
    (same : (items'.map Item.said?).Perm (items.map Item.said?)) :
    (items'.map Item.subject?).Nodup := by
  rw [subject?_map] at once ⊢
  exact (same.map _).nodup_iff.mpr once

/-- Items that say the same give the same texts, in whichever order they stand. -/
theorem given?_of_perm (once : (items.map Item.subject?).Nodup)
    (same : (items'.map Item.said?).Perm (items.map Item.said?)) :
    given? items' = given? items := by
  funext f
  apply Option.ext
  intro text
  rw [given?_eq_some_iff (once_of_perm once same), given?_eq_some_iff once, same.mem_iff]

theorem isVerbose_of_perm (same : (items'.map Item.said?).Perm (items.map Item.said?)) :
    isVerbose items' = isVerbose items := by
  have flags : ∀ items : List Item, isVerbose items = (items.map Item.said?).any Option.isNone := by
    intro items
    simp [isVerbose, Function.comp_def]
  rw [flags, flags, same.any_eq]

/-- A variable whose option is given does not count. -/
theorem textOf_congr (given : given? items' = given? items)
    (others : ∀ f, given? items f = none → env' f.envVariable = env f.envVariable) :
    textOf items' env' = textOf items env := by
  funext f
  rw [textOf, textOf, given]
  cases told : given? items f with
  | none => rw [others f told]
  | some text => rfl

theorem Sensible.of_perm (h : Sensible items env)
    (same : (items'.map Item.said?).Perm (items.map Item.said?))
    (clear : ∀ item ∈ items', item.isClear = true)
    (others : ∀ f, given? items f = none → env' f.envVariable = env f.envVariable) :
    Sensible items' env' where
  once := once_of_perm h.once same
  clear := clear
  suit := by
    rw [textOf_congr (given?_of_perm h.once same) others]
    exact h.suit

end

end CommandLine

/-! ## What the program makes of it -/

namespace Program

open CommandLine Choices

variable {items : List Item} {env : Environment}

theorem prepare_of_sensible (h : Sensible items env) :
    prepare (items.flatMap Item.args) env =
      ((Choices.ofTexts (textOf items env)).settings.mapError .refused).map
        fun settings => (settings, isVerbose items) := by
  rw [prepare, read_sensible h]
  dsimp only
  cases (Choices.ofTexts (textOf items env)).settings <;> rfl

/-- **Command line and environment determine the settings.**  Let a command line give each option
at most once, with its value apart or behind an equals sign, and perhaps the flag, so that the
texts that count suit their settings.  A setting has the text of its option, else that of its
variable, and else its standard value.  An unsuitable duration is reported first, then an
unsuitable period of the score board, then what the check objects to; otherwise these are the
settings.  Without a text for the pool its size follows the registry target, and the pool is never
refused as too small.  The outcome is the same for any order and spelling of the items, and
whatever the variables hold whose options are given. -/
theorem prepare_sensible (items : List Item) (env : Environment) (h : Sensible items env) :
    let texts := textOf items env
    let outcome := prepare (items.flatMap Item.args) env
    (∀ e, spanOr (texts .duration) Settings.defaultDuration = .error e →
      outcome = .error (.refused e)) ∧
    (∀ duration, spanOr (texts .duration) Settings.defaultDuration = .ok duration →
      (∀ e, spanOr (texts .boardPeriod) Settings.defaultBoardPeriod = .error e →
        outcome = .error (.refused e)) ∧
      ∀ boardPeriod, spanOr (texts .boardPeriod) Settings.defaultBoardPeriod = .ok boardPeriod →
        (∀ e, (Settings.ofTexts texts duration boardPeriod).check = .error e →
          outcome = .error (.refused e)) ∧
        ((Settings.ofTexts texts duration boardPeriod).check = .ok () →
          outcome = .ok (Settings.ofTexts texts duration boardPeriod, isVerbose items))) ∧
    (texts .poolSize = none →
      (∀ settings verbose, outcome = .ok (settings, verbose) →
        settings.poolSize = Settings.defaultPoolSize settings.registryTarget) ∧
      ∀ pool target, outcome ≠ .error (.refused (.poolTooSmall pool target))) ∧
    ∀ (items' : List Item) (env' : Environment),
      (items'.map Item.said?).Perm (items.map Item.said?) →
      (∀ item ∈ items', item.isClear = true) →
      (∀ f, given? items f = none → env' f.envVariable = env f.envVariable) →
      prepare (items'.flatMap Item.args) env' = outcome := by
  intro texts outcome
  have outcome_eq : outcome = _ := prepare_of_sensible h
  have prepared := outcome_eq
  rw [settings_ofTexts] at prepared
  refine ⟨?_, ?_, ?_, ?_⟩
  · intro e unreadable
    rw [prepared, unreadable]
    rfl
  · intro duration read
    rw [read] at prepared
    refine ⟨?_, ?_⟩
    · intro e unreadable
      rw [prepared, Except.bind, unreadable]
      rfl
    · intro boardPeriod read'
      rw [Except.bind, read', Except.bind] at prepared
      refine ⟨?_, ?_⟩
      · intro e refused
        rw [prepared, refused]
        rfl
      · intro accepted
        rw [prepared, accepted]
        rfl
  · intro unsaid
    obtain ⟨pool, large⟩ := pool_ofTexts unsaid
    rw [outcome_eq]
    cases settings : (Choices.ofTexts (textOf items env)).settings with
    | error e =>
      rw [settings] at large
      simpa [Except.map, Except.mapError] using large
    | ok s =>
      rw [settings] at pool
      simpa [Except.map, Except.mapError] using pool
  · intro items' env' same clear others
    have again := prepare_of_sensible (h.of_perm same clear others)
    rw [textOf_congr (given?_of_perm h.once same) others, isVerbose_of_perm same] at again
    exact again.trans (prepare_of_sensible h).symm

/-- A case of it: a target behind an equals sign, the flag by its letter, and an output that is a
dash, with a rate in the environment and a target there that is no number. -/
theorem prepare_target_and_rate :
    let items : List Item :=
      [.option .registryTarget "1000" .joined, .verbose true, .option .boardOutput "-" .apart]
    let env : Environment := fun name =>
      [("PERF_REG_RATE", "100/m"), ("PERF_REG_TARGET", "many")].lookup name
    Sensible items env ∧
      prepare ["--reg-target=1000", "-v", "--scoreboard-output", "-"] env =
        .ok ({ Settings.standard with
          registrationRate := ⟨100, .minute⟩
          registryTarget := 1000
          poolSize := 1200
          boardOutput := some "-" }, true) := by
  intro items env
  have sensible : Sensible items env := by
    refine ⟨by decide, by decide, ?_⟩
    have each : ∀ f, (textOf items env f).all (fun text => f.suits text) = true := by
      intro f
      cases f <;> decide +kernel
    intro f text told
    simpa [told] using each f
  have spelled : items.flatMap Item.args
      = ["--reg-target=1000", "-v", "--scoreboard-output", "-"] := by decide
  have duration : spanOr (textOf items env .duration) Settings.defaultDuration
      = .ok Settings.defaultDuration := by decide +kernel
  have boardPeriod : spanOr (textOf items env .boardPeriod) Settings.defaultBoardPeriod
      = .ok Settings.defaultBoardPeriod := by decide +kernel
  obtain ⟨-, read, -⟩ := prepare_sensible items env sensible
  obtain ⟨-, outcome⟩ := (read _ duration).2 _ boardPeriod
  refine ⟨sensible, ?_⟩
  rw [← spelled, outcome (by decide +kernel)]
  decide +kernel

end Program

end RegistryLoad

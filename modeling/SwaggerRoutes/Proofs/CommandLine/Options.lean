/-
What a command line says. The arguments of a run are a command and its options, each written with its
value in the same argument or in the next one, and two dashes may end them. The main statement is that
exactly these arguments ask for a run, with the values in the order of the options; what an option is
worth then does not depend on that order.
-/
import SwaggerRoutes.CommandLine.Run
import Mathlib.Data.List.Nodup
import Mathlib.Tactic.SplitIfs

namespace SwaggerRoutes.CommandLine

/-! ## Options as they are written -/

/-- An option with its value, which stands behind an equals sign or in an argument of its own. -/
structure Given where
  flag : Flag
  value : String
  joined : Bool
deriving DecidableEq

namespace Given

/-- The arguments that an option takes. -/
def words (given : Given) : List String :=
  if given.joined then [given.flag.name ++ "=" ++ given.value] else [given.flag.name, given.value]

def entry (given : Given) : Flag × String := (given.flag, given.value)

/-- An option that a command takes, with a value that it accepts as it is written. -/
structure Proper (command : Command) (given : Given) : Prop where
  known : given.flag ∈ command.flags
  filled : given.flag.takesPath = true → given.value ≠ ""
  apart : given.joined = false → looksLikeFlag given.value = false

end Given

/-- The values of options, in their order. -/
def valuesOf (options : List Given) : Values := options.map Given.entry

/-- The arguments that a command and its options make up. -/
def written (command : Command) (options : List Given) (ending : List String) : List String :=
  command.name :: (options.flatMap Given.words ++ ending)

/-- Nothing, or two dashes alone. -/
def IsEnding (ending : List String) : Prop := ending = [] ∨ ending = ["--"]

/-- Options that a command runs with: each is proper, none comes twice, and none is missing that the
command needs. -/
structure Accepted (command : Command) (options : List Given) : Prop where
  proper : ∀ given ∈ options, given.Proper command
  distinct : (options.map (·.flag)).Nodup
  complete : ∀ flag ∈ command.required, flag ∈ options.map (·.flag)

/-! ## One option -/

variable {command : Command} {values result : Values} {given : Given}

theorem splitValue_name (flag : Flag) : splitValue flag.name = (flag.name, none) := by
  cases flag <;> decide

theorem splitValue_joined (flag : Flag) (value : String) :
    splitValue (flag.name ++ "=" ++ value) = (flag.name, some value) := by
  cases flag <;> simp [splitValue, Flag.name, String.toList_append]

/-- The name and the value that an argument is cut into make it up again. -/
theorem eq_of_splitValue {argument name : String} :
    ∀ {value : Option String}, splitValue argument = (name, value) →
      argument = match value with
        | some value => name ++ "=" ++ value
        | none => name := by
  intro value h
  have whole := @List.takeWhile_append_dropWhile _ (· != '=') argument.toList
  unfold splitValue at h
  dsimp only at h
  split at h
  next c rest cut =>
    have equals : c = '=' := by
      have := List.head?_dropWhile_not (· != '=') argument.toList
      rw [cut] at this
      simpa using this
    cases h
    apply String.toList_injective
    rw [cut, equals] at whole
    simpa [String.toList_append] using whole.symm
  next cut =>
    cases h
    apply String.toList_injective
    rw [cut] at whole
    simpa using whole.symm

theorem eq_name_of_ofName? {name : String} {flag : Flag} (h : Flag.ofName? name = some flag) :
    name = flag.name := by
  have := List.find?_some h
  exact (by simpa using this : flag.name = name).symm

theorem addValue?_eq_some_iff {flag : Flag} {value : String} :
    addValue? command values flag value = some result ↔
      (flag ∈ command.flags ∧ flag ∉ values.map Prod.fst ∧ (flag.takesPath = true → value ≠ "")) ∧
        result = values ++ [(flag, value)] := by
  unfold addValue?
  rw [ite_eq_iff]
  simp only [reduceCtorEq, and_false, false_or, Option.some.injEq, @eq_comm _ result]
  simp [not_or, and_assoc]

/-- An argument that starts with an option neither ends the options nor asks for help. -/
theorem flag_append (flag : Flag) (text : String) :
    flag.name ++ text ≠ "--" ∧ asksHelp (flag.name ++ text) = false := by
  cases flag <;> simp [asksHelp, List.isPrefixOf, Flag.name, String.toList_append, ← String.toList_inj]

/-- An option that is proper and not there yet is read, and its value comes last. -/
theorem values?_words (proper : given.Proper command) (fresh : given.flag ∉ values.map Prod.fst)
    (rest : List String) :
    values? command values (given.words ++ rest) = values? command (values ++ [given.entry]) rest := by
  have added : addValue? command values given.flag given.value = some (values ++ [given.entry]) :=
    addValue?_eq_some_iff.2 ⟨⟨proper.known, fresh, proper.filled⟩, rfl⟩
  have apart := proper.apart
  obtain ⟨flag, value, joined⟩ := given
  dsimp only at added apart
  cases joined with
  | true =>
    obtain ⟨noEnding, noHelp⟩ := flag_append flag ("=" ++ value)
    rw [← String.append_assoc] at noEnding noHelp
    show values? command values ((flag.name ++ "=" ++ value) :: rest) = _
    rw [values?.eq_3 _ _ _ _ noEnding, noHelp, splitValue_joined]
    simp only [Bool.false_eq_true, if_false, Flag.ofName?_name, added]
  | false =>
    obtain ⟨noEnding, noHelp⟩ := flag_append flag ""
    rw [String.append_empty] at noEnding noHelp
    show values? command values (flag.name :: value :: rest) = _
    rw [values?.eq_3 _ _ _ _ noEnding, noHelp, splitValue_name]
    simp only [Bool.false_eq_true, if_false, Flag.ofName?_name, apart rfl, added]

/-! ## All options -/

/-- Arguments that make up options, each proper and none there before; their values come after the ones
that were there. -/
structure ReadFrom (command : Command) (values : Values) (arguments : List String) (result : Values)
    (options : List Given) (ending : List String) : Prop where
  proper : ∀ given ∈ options, given.Proper command
  distinct : (values.map Prod.fst ++ options.map (·.flag)).Nodup
  isEnding : IsEnding ending
  arguments_eq : arguments = options.flatMap Given.words ++ ending
  result_eq : result = values ++ valuesOf options

namespace ReadFrom

variable {arguments ending : List String} {options : List Given}

theorem nil (distinct : (values.map Prod.fst).Nodup) (isEnding : IsEnding ending) :
    ReadFrom command values ending values [] ending where
  proper := by simp
  distinct := by simpa using distinct
  isEnding
  arguments_eq := rfl
  result_eq := by simp [valuesOf]

theorem cons (proper : given.Proper command)
    (onward : ReadFrom command (values ++ [given.entry]) arguments result options ending) :
    ReadFrom command values (given.words ++ arguments) result (given :: options) ending where
  proper := List.forall_mem_cons.2 ⟨proper, onward.proper⟩
  distinct := by simpa [Given.entry] using onward.distinct
  isEnding := onward.isEnding
  arguments_eq := by rw [onward.arguments_eq, List.flatMap_cons, List.append_assoc]
  result_eq := by simp [onward.result_eq, valuesOf]

/-- A value that is added was given by a proper option. -/
theorem exists_cons {flag : Flag} {value : String} {more : Values} (joined : Bool)
    (distinct : (values.map Prod.fst).Nodup) (added : addValue? command values flag value = some more)
    (apart : joined = false → looksLikeFlag value = false)
    (onward : (more.map Prod.fst).Nodup →
      ∃ options ending, ReadFrom command more arguments result options ending) :
    ∃ options ending,
      ReadFrom command values (Given.words ⟨flag, value, joined⟩ ++ arguments) result options ending := by
  obtain ⟨⟨known, fresh, filled⟩, rfl⟩ := addValue?_eq_some_iff.1 added
  have still : ((values ++ [(flag, value)]).map Prod.fst).Nodup := by
    rw [List.map_append, List.nodup_append]
    exact ⟨distinct, by simp, by simpa using fun _ there => ne_of_mem_of_not_mem there fresh⟩
  obtain ⟨options, ending, onward⟩ := onward still
  have proper : Given.Proper command ⟨flag, value, joined⟩ := ⟨known, filled, apart⟩
  exact ⟨_, ending, onward.cons proper⟩

end ReadFrom

variable {arguments : List String}

theorem values?_of_readFrom {options : List Given} {ending : List String}
    (h : ReadFrom command values arguments result options ending) :
    values? command values arguments = some (some result) := by
  obtain ⟨proper, distinct, isEnding, rfl, rfl⟩ := h
  induction options generalizing values with
  | nil => rcases isEnding with rfl | rfl <;> simp [values?, valuesOf]
  | cons given options ih =>
    rw [List.forall_mem_cons] at proper
    have fresh : given.flag ∉ values.map Prod.fst := fun there =>
      (List.nodup_append.1 distinct).2.2 _ there _ (by simp) rfl
    rw [List.flatMap_cons, List.append_assoc, values?_words proper.1 fresh, ih proper.2]
    · simp [valuesOf]
    · simpa [Given.entry] using distinct

theorem exists_readFrom (distinct : (values.map Prod.fst).Nodup)
    (h : values? command values arguments = some (some result)) :
    ∃ options ending, ReadFrom command values arguments result options ending := by
  fun_induction values? command values arguments with
  | case1 values => cases h; exact ⟨[], [], .nil distinct (.inl rfl)⟩
  | case2 values rest noMore =>
    cases h
    rw [List.isEmpty_iff.1 noMore]
    exact ⟨[], ["--"], .nil distinct (.inr rfl)⟩
  | case3 => cases h
  | case4 => cases h
  | case5 => cases h
  | case6 => cases h
  | case7 values argument rest _ _ name value cut flag found values' added ih =>
    have whole : argument = flag.name ++ "=" ++ value := eq_name_of_ofName? found ▸ eq_of_splitValue cut
    rw [whole]
    exact ReadFrom.exists_cons true distinct added nofun fun still => ih still h
  | case8 => cases h
  | case9 => cases h
  | case10 values argument _ _ name cut flag value rest found apart values' added ih =>
    have whole : argument = flag.name := eq_name_of_ofName? found ▸ eq_of_splitValue cut
    rw [whole]
    exact ReadFrom.exists_cons false distinct added (fun _ => by simpa using apart)
      fun still => ih still h
  | case11 => cases h

/-! ## All arguments -/

theorem eq_name_of_commandOfName? {name : String} (h : Command.ofName? name = some command) :
    name = command.name := by
  have := List.find?_some h
  exact (by simpa using this : command.name = name).symm

theorem complete?_eq_some_iff {request : Request} :
    complete? command values = some request ↔
      (∀ flag ∈ command.required, flag ∈ values.map Prod.fst) ∧ request = .run command values := by
  unfold complete?
  rw [ite_eq_iff]
  simp [@eq_comm _ request]

theorem parse?_name (command : Command) (arguments : List String) :
    Request.parse? (command.name :: arguments) =
      match values? command [] arguments with
      | none => none
      | some none => some .help
      | some (some values) => complete? command values := by
  cases command <;> rfl

theorem map_fst_valuesOf (options : List Given) : (valuesOf options).map Prod.fst = options.map (·.flag) := by
  simp [valuesOf, Given.entry]

theorem exists_name_of_run (h : Request.parse? arguments = some (.run command values)) :
    ∃ (first : Command) (rest : List String), arguments = first.name :: rest := by
  unfold Request.parse? at h
  split at h
  · cases h
  next name rest =>
    split_ifs at h with help version about
    · cases h
    · cases h
    · split at h
      · cases h
      · split_ifs at h; cases h
      · cases h
    · split at h
      · cases h
      next first found => exact ⟨first, rest, by rw [eq_name_of_commandOfName? found]⟩

/-- The arguments that ask for a run are those of a command with options that it runs with. -/
theorem parse?_eq_run_iff :
    Request.parse? arguments = some (.run command values) ↔
      ∃ options ending, Accepted command options ∧ IsEnding ending ∧
        arguments = written command options ending ∧ values = valuesOf options := by
  constructor
  · intro h
    obtain ⟨first, rest, rfl⟩ := exists_name_of_run h
    rw [parse?_name] at h
    split at h
    · cases h
    · cases h
    next result read =>
      obtain ⟨complete, same⟩ := complete?_eq_some_iff.1 h
      cases same
      obtain ⟨options, ending, proper, distinct, isEnding, rfl, rfl⟩ := exists_readFrom (by simp) read
      refine ⟨options, ending, ⟨proper, distinct, fun flag required => ?_⟩, isEnding, rfl, rfl⟩
      rw [← map_fst_valuesOf]
      exact complete flag required
  · rintro ⟨options, ending, accepted, isEnding, rfl, rfl⟩
    have read : values? command [] (options.flatMap Given.words ++ ending) = some (some (valuesOf options)) :=
      values?_of_readFrom ⟨accepted.proper, accepted.distinct, isEnding, rfl, rfl⟩
    rw [written, parse?_name, read]
    exact complete?_eq_some_iff.2 ⟨by simpa [map_fst_valuesOf] using accepted.complete, rfl⟩

/-! ## Order -/

/-- What an option is worth does not depend on the order of options that differ. -/
theorem lookup_perm {rows rows' : Values} (perm : rows.Perm rows') (distinct : (rows.map Prod.fst).Nodup)
    (flag : Flag) : rows.lookup flag = rows'.lookup flag := by
  induction perm with
  | nil => rfl
  | cons row perm ih =>
    rw [List.map_cons, List.nodup_cons] at distinct
    rw [List.lookup_cons, List.lookup_cons, ih distinct.2]
  | swap row other rows =>
    have differ : other.1 ≠ row.1 := by
      intro same
      simp [same] at distinct
    grind
  | trans first second ih ih' =>
    exact (ih distinct).trans (ih' ((first.map Prod.fst).nodup_iff.1 distinct))

variable {options others : List Given}

theorem Accepted.perm (accepted : Accepted command options) (perm : options.Perm others) :
    Accepted command others where
  proper given h := accepted.proper given (perm.mem_iff.2 h)
  distinct := (perm.map _).nodup_iff.1 accepted.distinct
  complete flag h := (perm.map _).mem_iff.1 (accepted.complete flag h)

theorem valueOf?_perm (accepted : Accepted command options) (perm : options.Perm others) (flag : Flag) :
    valueOf? (valuesOf options) flag = valueOf? (valuesOf others) flag :=
  lookup_perm (perm.map Given.entry) (map_fst_valuesOf options ▸ accepted.distinct) flag

end SwaggerRoutes.CommandLine

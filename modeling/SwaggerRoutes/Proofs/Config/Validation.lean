/-
Which settings pass their check. The names of the document and of the output directory must not be blank. The
package must be empty or have names for all parts between its points; these texts make up a regular language,
given here in the form in which one writes its pattern. The main statement joins the three, and adds what follows
for the place of a class: no part of a package that passes is lost on the way to its directory, and the one piece
of the empty package, which is lost, makes no difference to the path.
-/
import SwaggerRoutes.Proofs.Java.Place
import Mathlib.Computability.Language

namespace SwaggerRoutes.Config

open SwaggerRoutes.Text SwaggerRoutes.Files SwaggerRoutes.Route
open scoped Computability

/-! ## Package names -/

/-- A character that begins a part of a package name. -/
def Begins (c : Char) : Prop := 'A' ≤ c ∧ c ≤ 'Z' ∨ 'a' ≤ c ∧ c ≤ 'z' ∨ c = '_' ∨ c = '$'

/-- A character that continues a part of a package name. -/
def Continues (c : Char) : Prop := Begins c ∨ '0' ≤ c ∧ c ≤ '9'

/-- A part of a package name: a character that begins one, and others that continue it. -/
def IsPart (part : List Char) : Prop := ∃ c rest, part = c :: rest ∧ Begins c ∧ ∀ d ∈ rest, Continues d

/-- Nothing, or parts with single points between neighbours. -/
def IsPackageName (package : String) : Prop :=
  package = "" ∨ ∀ part ∈ package.toList.splitOn '.', IsPart part

theorem isLetter_iff {c : Char} : isLetter c = true ↔ 'A' ≤ c ∧ c ≤ 'Z' ∨ 'a' ≤ c ∧ c ≤ 'z' := by
  change (decide (65 ≤ c.val ∧ c.val ≤ 90) || (decide (97 ≤ c.val) && decide (c.val ≤ 122))) = true ↔ _
  simp only [Bool.or_eq_true, Bool.and_eq_true, decide_eq_true_eq]
  rfl

theorem isIdentifierStart_iff {c : Char} : isIdentifierStart c = true ↔ Begins c := by
  simp only [isIdentifierStart, Bool.or_eq_true, decide_eq_true_eq, isLetter_iff, Begins, or_assoc]

theorem isDigit_iff {c : Char} : isDigit c = true ↔ '0' ≤ c ∧ c ≤ '9' := by
  simp only [isDigit, Char.isDigit, Bool.and_eq_true, decide_eq_true_eq]
  rfl

theorem continues_iff {c : Char} : (isIdentifierStart c || isDigit c) = true ↔ Continues c := by
  rw [Bool.or_eq_true, isIdentifierStart_iff, isDigit_iff, Continues]

theorem isPackagePart_iff {part : List Char} : isPackagePart part = true ↔ IsPart part := by
  cases part with
  | nil => simp [isPackagePart, IsPart]
  | cons c rest => simp [isPackagePart, IsPart, isIdentifierStart_iff, ← continues_iff]

theorem isPackage_iff {package : String} : isPackage package = true ↔ IsPackageName package := by
  simp only [isPackage, IsPackageName, Bool.or_eq_true, decide_eq_true_eq, List.all_eq_true, isPackagePart_iff,
    pieces_eq_splitOn, String.toList_eq_nil_iff]

/-! ## The language of package names -/

/-- The texts of one character of a class. -/
def oneOf (Class : Char → Prop) : Language Char := {text | ∃ c, Class c ∧ text = [c]}

def partLanguage : Language Char := oneOf Begins * (oneOf Continues)∗

/-- Nothing, or a part with any number of further parts, each behind a point. -/
def packageLanguage : Language Char := 1 + partLanguage * (oneOf (· = '.') * partLanguage)∗

theorem mem_kstar_oneOf {Class : Char → Prop} {text : List Char} :
    text ∈ (oneOf Class)∗ ↔ ∀ c ∈ text, Class c := by
  rw [Language.mem_kstar]
  constructor
  · rintro ⟨words, rfl, single⟩ c mem
    obtain ⟨word, hword, hc⟩ := List.mem_flatten.1 mem
    obtain ⟨d, given, rfl⟩ := single word hword
    rwa [List.mem_singleton.1 hc]
  · intro all
    refine ⟨text.map fun c => [c], by simp [← List.flatMap_def], fun word hword => ?_⟩
    obtain ⟨c, hc, rfl⟩ := List.mem_map.1 hword
    exact ⟨c, all c hc, rfl⟩

theorem mem_partLanguage {text : List Char} : text ∈ partLanguage ↔ IsPart text := by
  rw [partLanguage, Language.mem_mul]
  constructor
  · rintro ⟨_, ⟨c, begins, rfl⟩, rest, continues, rfl⟩
    exact ⟨c, rest, rfl, begins, mem_kstar_oneOf.1 continues⟩
  · rintro ⟨c, rest, rfl, begins, continues⟩
    exact ⟨[c], ⟨c, begins, rfl⟩, rest, mem_kstar_oneOf.2 continues, rfl⟩

/-- The repetition of points with parts behind them. -/
theorem mem_kstar_pointed {text : List Char} : text ∈ (oneOf (· = '.') * partLanguage)∗ ↔
    ∃ parts : List (List Char), (∀ part ∈ parts, IsPart part) ∧ text = parts.flatMap (['.'] ++ ·) := by
  rw [Language.mem_kstar]
  constructor
  · rintro ⟨words, rfl, pointed⟩
    induction words with
    | nil => exact ⟨[], by simp, rfl⟩
    | cons word words ih =>
      rw [List.forall_mem_cons] at pointed
      obtain ⟨parts, isPart, rest⟩ := ih pointed.2
      obtain ⟨_, ⟨_, rfl, rfl⟩, part, hpart, rfl⟩ := Language.mem_mul.1 pointed.1
      refine ⟨part :: parts, List.forall_mem_cons.2 ⟨mem_partLanguage.1 hpart, isPart⟩, ?_⟩
      rw [List.flatten_cons, List.flatMap_cons, rest]
  · rintro ⟨parts, isPart, rfl⟩
    refine ⟨parts.map (['.'] ++ ·), List.flatMap_def, fun word hword => ?_⟩
    obtain ⟨part, hpart, rfl⟩ := List.mem_map.1 hword
    exact Language.mem_mul.2 ⟨['.'], ⟨'.', rfl, rfl⟩, part, mem_partLanguage.2 (isPart part hpart), rfl⟩

theorem IsPart.notMem_point {part : List Char} (isPart : IsPart part) : '.' ∉ part := by
  have other : ¬ Continues '.' := by unfold Continues Begins; decide
  obtain ⟨c, rest, rfl, begins, continues⟩ := isPart
  rw [List.mem_cons, not_or]
  refine ⟨?_, fun mem => other (continues _ mem)⟩
  rintro rfl
  exact other (.inl begins)

/-- The language holds the texts that are empty or have parts only between their points. -/
theorem mem_packageLanguage {text : List Char} :
    text ∈ packageLanguage ↔ text = [] ∨ ∀ part ∈ text.splitOn '.', IsPart part := by
  rw [packageLanguage, Language.mem_add, Language.mem_one, Language.mem_mul, ← pieces_eq_splitOn]
  refine or_congr_right ⟨?_, fun isPart => ?_⟩
  · rintro ⟨first, hfirst, _, further, rfl⟩
    obtain ⟨parts, isPart, rfl⟩ := mem_kstar_pointed.1 further
    have all : ∀ part ∈ first :: parts, IsPart part :=
      List.forall_mem_cons.2 ⟨mem_partLanguage.1 hfirst, isPart⟩
    -- parts hold no point, so cutting finds them again
    rw [← joined_cons_eq, pieces_joined (by simp) fun part hpart => (all part hpart).notMem_point]
    exact all
  · obtain ⟨first, others, cut⟩ := List.exists_cons_of_ne_nil (pieces_ne_nil '.' text)
    rw [cut, List.forall_mem_cons] at isPart
    refine ⟨first, mem_partLanguage.2 isPart.1, _, mem_kstar_pointed.2 ⟨others, isPart.2, rfl⟩, ?_⟩
    rw [← joined_cons_eq, ← cut, joined_pieces]

/-! ## Packages that pass -/

theorem IsPart.ne_nil {part : List Char} (isPart : IsPart part) : part ≠ [] := by
  obtain ⟨c, rest, rfl, -⟩ := isPart
  simp

/-- The numbers of the characters of a part. -/
theorem toNat_of_continues {c : Char} (continues : Continues c) :
    65 ≤ c.toNat ∧ c.toNat ≤ 90 ∨ 97 ≤ c.toNat ∧ c.toNat ≤ 122 ∨ c.toNat = 95 ∨ c.toNat = 36 ∨
      48 ≤ c.toNat ∧ c.toNat ≤ 57 := by
  rcases continues with (upper | lower | rfl | rfl) | digit
  · exact .inl upper
  · exact .inr (.inl lower)
  · decide
  · decide
  · exact .inr (.inr (.inr (.inr digit)))

theorem not_isBlank_of_continues {c : Char} (continues : Continues c) : isBlank c = false := by
  have number := toNat_of_continues continues
  simp only [isBlank, Bool.or_eq_false_iff, Bool.and_eq_false_iff, decide_eq_false_iff_not,
    beq_eq_false_iff_ne]
  omega

/-- A package name without a text between two points, or before the first or after the last, is empty. -/
theorem IsPackageName.toList_eq_nil {package : String} (name : IsPackageName package)
    (gap : [] ∈ pieces '.' package.toList) : package.toList = [] := by
  rw [pieces_eq_splitOn] at gap
  rcases name with rfl | isPart
  · rfl
  · exact absurd rfl (isPart [] gap).ne_nil

/-- In a package name no point stands before the end or before another point. -/
theorem IsPackageName.ne_append_point {package : String} (name : IsPackageName package) (front : List Char)
    {rest : List Char} (gap : ∀ c ∈ rest.head?, c = '.') : package.toList ≠ front ++ '.' :: rest := by
  intro text
  have hole : [] ∈ pieces '.' package.toList := by
    rw [text, pieces_append_cons]
    exact List.mem_append_right _ (nil_mem_pieces gap)
  rw [name.toList_eq_nil hole] at text
  simp at text

/-- What a package name is free of, and which of its pieces are dropped on the way to its directory: none, but for
the one piece of the empty package, which is empty. The path of a class is the same as if nothing were dropped. -/
structure Tidy (package : String) : Prop where
  noBlank : ∀ c ∈ package.toList, isBlank c = false
  noLeadingPoint : package.toList.head? ≠ some '.'
  noTrailingPoint : package.toList.getLast? ≠ some '.'
  noDoubledPoint : ¬ ['.', '.'] <:+: package.toList
  noneDropped : package ≠ "" →
    (package.toList.splitOn '.').filter (· != []) = package.toList.splitOn '.'
  emptyPiece : package = "" → package.toList.splitOn '.' = [[]]
  path : ∀ artifact : Artifact, Java.relativePath package artifact =
    ((package.toList.splitOn '.').foldl (fun (path : Path) part => path.join (String.ofList part)) ⟨""⟩).join
      (artifact.className ++ ".java")

theorem IsPackageName.tidy {package : String} (name : IsPackageName package) : Tidy package := by
  have noneDropped (nonempty : package ≠ "") :
      (package.toList.splitOn '.').filter (· != []) = package.toList.splitOn '.' := by
    rw [List.filter_eq_self]
    intro part hpart
    simpa using (name.resolve_left nonempty part hpart).ne_nil
  refine ⟨?_, ?_, ?_, ?_, noneDropped, ?_, ?_⟩
  · intro c mem
    by_contra blank
    have other : (isIdentifierStart c || isDigit c) = false := by
      rw [Bool.eq_false_iff, Ne, continues_iff]
      exact fun continues => blank (not_isBlank_of_continues continues)
    have point : c ≠ '.' := by
      rintro rfl
      exact blank (by decide)
    exact Java.notMem_package_of (isPackage_iff.2 name) other point mem
  · intro point
    have empty := name.toList_eq_nil (nil_mem_pieces (by simp [point]))
    rw [empty] at point
    cases point
  · intro point
    obtain ⟨front, text⟩ := List.getLast?_eq_some_iff.1 point
    exact name.ne_append_point front (by simp) text
  · rintro ⟨front, rest, text⟩
    have doubled : ∀ c ∈ ('.' :: rest).head?, c = '.' := by simp
    exact name.ne_append_point front doubled (by simp [← text])
  · rintro rfl
    rfl
  · intro artifact
    unfold Java.relativePath
    by_cases empty : package = ""
    -- its one piece is empty, and joining an empty name leads nowhere
    · rw [empty]; rfl
    · rw [pieces_eq_splitOn, noneDropped empty]

/-! ## The whole -/

theorem allBlank_eq_false_iff {text : String} : allBlank text = false ↔ ∃ c ∈ text.toList, isBlank c = false := by
  simp [allBlank]

/-- Settings pass exactly if the names of the document and of the output directory each hold a character that is
no blank, and the package is empty or has parts only between its points. Such packages are the texts of a regular
language. In a package that passes no point stands at an end or beside another one and no character is a blank,
and each of its parts has a directory on the path of a class. -/
theorem validate_exact (config : Config) :
    (config.validate = .ok () ↔
      (∃ c ∈ config.schemaPath.toList, isBlank c = false) ∧ (∃ c ∈ config.outputDir.toList, isBlank c = false) ∧
        IsPackageName config.package) ∧
    (IsPackageName config.package ↔ config.package.toList ∈ packageLanguage) ∧
    (config.validate = .ok () → Tidy config.package) := by
  refine ⟨?_, ?_, fun valid => ?_⟩
  · rw [validate_eq_ok_iff, allBlank_eq_false_iff, allBlank_eq_false_iff, isPackage_iff]
  · rw [mem_packageLanguage, String.toList_eq_nil_iff, IsPackageName]
  · exact (isPackage_iff.1 (validate_eq_ok_iff.1 valid).2.2).tidy

theorem validate_exact_dollars :
    Config.validate ⟨" \n.", "\x7f", "$._0.a$B_9"⟩ = .ok () ∧ Tidy "$._0.a$B_9" := by
  have valid : Config.validate ⟨" \n.", "\x7f", "$._0.a$B_9"⟩ = .ok () := by decide
  exact ⟨valid, (validate_exact _).2.2 valid⟩

/-- The empty package passes, and its one piece is empty and dropped. -/
theorem empty_package_loses_its_piece :
    Config.validate { package := "" } = .ok () ∧ pieces '.' "".toList = [[]] ∧
      (pieces '.' "".toList).filter (· != []) ≠ pieces '.' "".toList := by
  decide

/-- The end of the pattern is the end of the text. -/
example : Config.validate { package := "org.acme\n" } = .error (.invalidPackage "org.acme\n") := by decide

end SwaggerRoutes.Config

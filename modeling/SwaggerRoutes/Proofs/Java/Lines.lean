/-
The lines of the source of a class. The line of the package, if there is one, comes first; the line
that opens the class stands once; and no other line begins like one of the two, since statements are
indented on all their lines, whatever texts they hold.
-/
import SwaggerRoutes.Proofs.Java.Faithful

namespace SwaggerRoutes.Java

open SwaggerRoutes.Text SwaggerRoutes.Api SwaggerRoutes.Route

/-- The lines of a text, the last of them empty if the text ends with a line feed. -/
def lines (text : String) : List String := (pieces '\n' text.toList).map String.ofList

/-- The line that names a package, without its end. -/
def packageHead (package : String) : String := "package " ++ package ++ ";"

/-- The line that opens a class, without its end. -/
def classHead (className : String) : String :=
  "public final class " ++ className ++ " extends RouteBuilder \x7b"

/-- The line that imports a type, without its end. -/
def importHead (type : HostType) : String := "import " ++ type.qualifiedName ++ ";"

/-! ## Texts that end their lines -/

theorem pieces_flatMap_append {α : Type} {write line : α → List Char}
    (ends : ∀ x, write x = line x ++ ['\n']) (xs : List α) (rest : List Char) :
    pieces '\n' (xs.flatMap write ++ rest) =
      xs.flatMap (fun x => pieces '\n' (line x)) ++ pieces '\n' rest := by
  induction xs with
  | nil => rfl
  | cons x xs ih =>
    rw [List.flatMap_cons, ends, List.append_assoc, List.append_assoc, List.singleton_append,
      pieces_append_cons, ih, List.flatMap_cons, List.append_assoc]

/-- A text with a blank before each of its lines. -/
theorem head?_of_mem_pieces_indentLines (text last : List Char) (noFeed : '\n' ∉ last)
    {before : List Char} (indented : before.head? = some ' ') (oneLine : '\n' ∉ before) :
    ∀ line ∈ pieces '\n' (before ++ indentLines text ++ last), line.head? = some ' ' := by
  induction text generalizing before with
  | nil =>
    intro line h
    have one : '\n' ∉ before ++ last := by
      rw [List.mem_append, not_or]; exact ⟨oneLine, noFeed⟩
    have empty : indentLines [] = [] := rfl
    rw [empty, List.append_nil, pieces_of_notMem one, List.mem_singleton] at h
    rw [h]
    exact head?_append_of_head? indented last
  | cons c text ih =>
    intro line h
    by_cases feed : c = '\n'
    · -- the next line starts with the indentation
      have cut : before ++ indentLines (c :: text) ++ last =
          before ++ '\n' :: (continuationIndent.toList ++ indentLines text ++ last) := by
        rw [feed, indentLines, replaceChar, List.flatMap_cons, if_pos rfl]
        simp only [List.append_assoc, List.cons_append]
        rfl
      rw [cut, pieces_append_sep oneLine] at h
      rcases List.mem_cons.1 h with rfl | h
      · exact indented
      · exact ih (by decide) (by decide) line h
    · have moved : before ++ indentLines (c :: text) ++ last = before ++ [c] ++ indentLines text ++ last := by
        rw [indentLines, replaceChar, List.flatMap_cons, if_neg feed, ← List.append_assoc before]
        rfl
      rw [moved] at h
      refine ih (head?_append_of_head? indented _) ?_ line h
      rw [List.mem_append, not_or, List.mem_singleton]
      exact ⟨oneLine, Ne.symm feed⟩

/-! ## The parts of the source -/

theorem head?_of_mem_statement (s : Statement) :
    ∀ line ∈ pieces '\n' (statement s ++ ";").toList, line.head? = some ' ' := by
  have text : (statement s ++ ";").toList =
      statementIndent.toList ++ indentLines (s.render argument).toList ++ ";".toList := by
    rw [statement, String.toList_append, String.toList_append, String.toList_ofList]
  rw [text]
  exact head?_of_mem_pieces_indentLines _ _ (by decide) (by decide) (by decide)

theorem toList_statementLine_eq (s : Statement) :
    (statementLine s).toList = (statement s ++ ";").toList ++ ['\n'] := by
  have ends : ";\n".toList = ";".toList ++ ['\n'] := by decide
  unfold statementLine
  rw [String.toList_append, String.toList_append, ends, List.append_assoc]

/-- The lines from the opening of `configure` to the end are empty, or begin with a blank or a brace. -/
theorem head?_of_mem_body (artifact : Artifact) :
    ∀ line ∈ pieces '\n' (configureLine.toList ++
        ((artifact.statements.flatMap fun s => (statementLine s).toList) ++ classEnd.toList)),
      line.head? ∈ [none, some ' ', some '\x7d'] := by
  intro line h
  have opens : configureLine.toList =
      [] ++ '\n' :: ("    public void configure() \x7b".toList ++ ['\n']) := by decide
  rw [opens, List.append_assoc, List.cons_append, pieces_append_cons, List.append_assoc,
    List.singleton_append, pieces_append_cons, pieces_flatMap_append toList_statementLine_eq] at h
  simp only [List.mem_append] at h
  rcases h with empty | configure | statement | last
  · rw [List.mem_singleton.1 empty]; simp
  · have one : ∀ line ∈ pieces '\n' "    public void configure() \x7b".toList,
        line.head? ∈ [none, some ' ', some '\x7d'] := by decide
    exact one line configure
  · obtain ⟨s, -, hs⟩ := List.mem_flatMap.1 statement
    rw [head?_of_mem_statement s line hs]
    decide
  · have ends : ∀ line ∈ pieces '\n' classEnd.toList, line.head? ∈ [none, some ' ', some '\x7d'] := by decide
    exact ends line last

theorem toList_importLine (type : HostType) :
    (importLine type.qualifiedName).toList = (importHead type).toList ++ ['\n'] := by
  have ends : ";\n".toList = ";".toList ++ ['\n'] := by decide
  unfold importLine importHead
  rw [String.toList_append, ends]
  simp

theorem head?_importHead (type : HostType) : (importHead type).toList.head? = some 'i' := by
  rw [importHead, String.toList_append, String.toList_append, List.append_assoc]
  exact head?_append_of_head? (by decide) _

theorem pieces_importHead (type : HostType) : pieces '\n' (importHead type).toList = [(importHead type).toList] := by
  apply pieces_of_notMem
  simp only [importHead, String.toList_append, List.mem_append, not_or]
  exact ⟨⟨by decide, notMem_qualifiedName type (by decide) (by decide)⟩, by decide⟩

/-- The lines of the imports, and those that follow. -/
theorem pieces_imports (artifact : Artifact) (rest : List Char) :
    pieces '\n' (((imports artifact).flatMap fun name => (importLine name).toList) ++ rest) =
      ((importedTypes artifact).map fun type => (importHead type).toList) ++ pieces '\n' rest := by
  rw [imports, List.flatMap_map, pieces_flatMap_append toList_importLine, List.map_eq_flatMap]
  exact congrArg (· ++ _) (List.flatMap_congr fun type _ => pieces_importHead type)

/-- The line of the package and an empty one, or none. -/
theorem pieces_packageLines {package : String} (noFeed : '\n' ∉ package.toList) (rest : List Char) :
    pieces '\n' ((packageLines package).toList ++ rest) =
      (if package = "" then [] else [(packageHead package).toList, []]) ++ pieces '\n' rest := by
  unfold packageLines
  split
  · rfl
  · have oneLine : '\n' ∉ (packageHead package).toList := by
      unfold packageHead
      simp only [String.toList_append, List.mem_append, not_or]
      exact ⟨⟨by decide, noFeed⟩, by decide⟩
    have text : ("package " ++ package ++ ";\n\n").toList ++ rest =
        (packageHead package).toList ++ '\n' :: ([] ++ '\n' :: rest) := by
      have ends : ";\n\n".toList = ";".toList ++ ['\n', '\n'] := by decide
      unfold packageHead
      rw [String.toList_append, ends]
      simp
    rw [text, pieces_append_sep oneLine, pieces_append_cons]
    rfl

theorem toList_classLine (className : String) :
    (classLine className).toList = (classHead className).toList ++ ['\n'] := by
  have brace : " extends RouteBuilder \x7b\n".toList = " extends RouteBuilder \x7b".toList ++ ['\n'] := by
    decide
  unfold classLine classHead
  rw [String.toList_append, brace]
  simp

theorem pieces_classLine {className : String} (noFeed : '\n' ∉ className.toList) (rest : List Char) :
    pieces '\n' ("\n".toList ++ ((classLine className).toList ++ rest)) =
      [] :: (classHead className).toList :: pieces '\n' rest := by
  have oneLine : '\n' ∉ (classHead className).toList := by
    unfold classHead
    simp only [String.toList_append, List.mem_append, not_or]
    exact ⟨⟨by decide, noFeed⟩, by decide⟩
  have feed : "\n".toList = [] ++ ['\n'] := by decide
  rw [toList_classLine, feed, List.append_assoc, List.singleton_append, pieces_append_cons,
    List.append_assoc, List.singleton_append, pieces_append_sep oneLine]
  rfl

/-! ## The lines of the source -/

/-- Only the line of the package and that of the class begin with a `p`. -/
theorem pieces_source {package : String} {artifact : Artifact} (noFeed : '\n' ∉ package.toList)
    (noFeed' : '\n' ∉ artifact.className.toList) :
    ∃ before after, pieces '\n' (source package artifact).toList =
        (if package = "" then [] else [(packageHead package).toList]) ++
          (before ++ (classHead artifact.className).toList :: after) ∧
      ∀ line ∈ before ++ after, line.head? ≠ some 'p' := by
  let body := pieces '\n' (configureLine.toList ++
    ((artifact.statements.flatMap fun s => (statementLine s).toList) ++ classEnd.toList))
  have plain : ∀ line ∈ body, line.head? ≠ some 'p' := by
    intro line h letter
    have begins := head?_of_mem_body artifact line h
    rw [letter] at begins
    exact absurd begins (by decide)
  let front := (importedTypes artifact).map fun type => (importHead type).toList
  have imports : ∀ line ∈ front, line.head? ≠ some 'p' := by
    intro line h
    obtain ⟨type, -, rfl⟩ := List.mem_map.1 h
    rw [head?_importHead]
    decide
  rw [toList_source, pieces_packageLines noFeed, pieces_imports, pieces_classLine noFeed']
  have empty : ([] : List Char).head? ≠ some 'p' := by simp
  split
  · refine ⟨front ++ [[]], body, by simp [front, body], fun line h => ?_⟩
    simp only [List.mem_append, List.mem_singleton] at h
    rcases h with (h | rfl) | h
    · exact imports line h
    · exact empty
    · exact plain line h
  · refine ⟨[] :: (front ++ [[]]), body, by simp [front, body], fun line h => ?_⟩
    simp only [List.cons_append, List.mem_cons, List.mem_append, List.not_mem_nil, or_false] at h
    rcases h with rfl | (h | rfl) | h
    · exact empty
    · exact imports line h
    · exact empty
    · exact plain line h

/-- A line that begins like one of the two is one of the two. -/
theorem line_eq_of_mem {package : String} {artifact : Artifact} (noFeed : '\n' ∉ package.toList)
    (noFeed' : '\n' ∉ artifact.className.toList) {line : String}
    (mem : line ∈ lines (source package artifact)) {word : List Char} (start : word.head? = some 'p')
    (begins : word <+: line.toList) :
    package ≠ "" ∧ line = packageHead package ∨ line = classHead artifact.className := by
  obtain ⟨before, after, cut, plain⟩ := pieces_source noFeed noFeed'
  have head : line.toList.head? = some 'p' := by
    obtain ⟨rest, text⟩ := begins
    rw [← text]
    exact head?_append_of_head? start rest
  obtain ⟨piece, hp, rfl⟩ := List.mem_map.1 mem
  rw [String.toList_ofList] at head
  rw [cut, List.mem_append, List.mem_append, List.mem_cons] at hp
  rcases hp with first | before | rfl | after
  · split at first
    · cases first
    next given => exact .inl ⟨given, by rw [List.mem_singleton.1 first, String.ofList_toList]⟩
  · exact absurd head (plain piece (List.mem_append_left _ before))
  · exact .inr String.ofList_toList
  · exact absurd head (plain piece (List.mem_append_right _ after))

theorem head?_lines_source {package : String} {artifact : Artifact} (noFeed : '\n' ∉ package.toList)
    (noFeed' : '\n' ∉ artifact.className.toList) (given : package ≠ "") :
    (lines (source package artifact)).head? = some (packageHead package) := by
  obtain ⟨before, after, cut, -⟩ := pieces_source noFeed noFeed'
  unfold lines
  rw [cut, if_neg given]
  simp

theorem classHead_mem_lines {package : String} {artifact : Artifact} (noFeed : '\n' ∉ package.toList)
    (noFeed' : '\n' ∉ artifact.className.toList) :
    classHead artifact.className ∈ lines (source package artifact) := by
  obtain ⟨before, after, cut, -⟩ := pieces_source noFeed noFeed'
  unfold lines
  rw [cut]
  simp

theorem isPrefix_classHead (className : String) : "public final class ".toList <+: (classHead className).toList := by
  unfold classHead
  rw [String.toList_append, String.toList_append, List.append_assoc]
  exact List.prefix_append _ _

/-- Only one of the two begins like a line of a package, and only the other like one of a class. -/
theorem not_isPrefix_classHead (className : String) : ¬ "package ".toList <+: (classHead className).toList := by
  have second : ((classHead className).toList)[1]? = some 'u' := by
    unfold classHead
    rw [String.toList_append, String.toList_append, List.append_assoc]
    rfl
  rintro ⟨rest, same⟩
  rw [← same] at second
  cases second

theorem not_isPrefix_packageHead (package : String) :
    ¬ "public final class ".toList <+: (packageHead package).toList := by
  have second : ((packageHead package).toList)[1]? = some 'a' := by
    unfold packageHead
    rw [String.toList_append, String.toList_append, List.append_assoc]
    rfl
  rintro ⟨rest, same⟩
  rw [← same] at second
  cases second

end SwaggerRoutes.Java

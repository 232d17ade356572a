/-
Where a text is cut. The part before the first occurrence of a separator is determined by the whole
text; and items written one after the other are determined by it if each can be told apart from what
follows it and none begins like what ends the list.
-/
import SwaggerRoutes.Text.Pieces

namespace SwaggerRoutes.Text

/-- Cutting as the standard library has it. -/
theorem pieces_eq_splitOn (sep : Char) (text : List Char) : pieces sep text = text.splitOn sep := by
  induction text with
  | nil => rfl
  | cons c rest ih =>
    rw [List.splitOn_eq_splitOnP] at ih ⊢
    rw [List.splitOnP_cons_eq_if_modifyHead, ← ih, pieces]
    by_cases h : c = sep
    · simp [h]
    · obtain ⟨first, others, cut⟩ := List.exists_cons_of_ne_nil (pieces_ne_nil sep rest)
      simp [h, cut]

theorem pieces_append_sep {sep : Char} {first : List Char} (h : sep ∉ first) (rest : List Char) :
    pieces sep (first ++ sep :: rest) = first :: pieces sep rest := by
  induction first with
  | nil => simp [pieces]
  | cons c tail ih =>
    simp only [List.mem_cons, not_or] at h
    rw [List.cons_append, pieces, if_neg (Ne.symm h.1), ih h.2]

theorem pieces_inj {sep : Char} {text text' : List Char} (same : pieces sep text = pieces sep text') :
    text = text' := by
  rw [← joined_pieces sep text, same, joined_pieces]

theorem joined_cons_eq (sep piece : List Char) (others : List (List Char)) :
    joined sep (piece :: others) = piece ++ others.flatMap (sep ++ ·) := by
  induction others generalizing piece with
  | nil => simp [joined]
  | cons next others ih => rw [joined_cons (by simp), ih]; simp

theorem joined_modifyHead {sep : List Char} {pieces : List (List Char)} (nonempty : pieces ≠ []) (c : Char) :
    joined sep (pieces.modifyHead (c :: ·)) = c :: joined sep pieces := by
  obtain ⟨first, others, rfl⟩ := List.exists_cons_of_ne_nil nonempty
  rw [List.modifyHead_cons, joined_cons_eq, joined_cons_eq, List.cons_append]

/-- What is no separator stands in a piece. -/
theorem exists_mem_pieces {sep c : Char} {text : List Char} (h : c ∈ text) (other : c ≠ sep) :
    ∃ piece ∈ pieces sep text, c ∈ piece := by
  rw [← joined_pieces sep text] at h
  obtain ⟨first, others, cut⟩ := List.exists_cons_of_ne_nil (pieces_ne_nil sep text)
  rw [cut] at h ⊢
  rw [joined_cons_eq, List.mem_append, List.mem_flatMap] at h
  rcases h with h | ⟨piece, hp, h⟩
  · exact ⟨first, List.mem_cons_self, h⟩
  · rw [List.mem_append, List.mem_singleton] at h
    exact ⟨piece, List.mem_cons_of_mem _ hp, h.resolve_left other⟩

/-- Two texts that are cut at their first separators agree before and after the cut. -/
theorem append_sep_inj {sep : Char} {first first' rest rest' : List Char} (h : sep ∉ first)
    (h' : sep ∉ first') (same : first ++ sep :: rest = first' ++ sep :: rest') :
    first = first' ∧ rest = rest' := by
  have cut := congrArg (pieces sep) same
  rw [pieces_append_sep h, pieces_append_sep h', List.cons.injEq] at cut
  exact ⟨cut.1, pieces_inj cut.2⟩

theorem pieces_of_notMem {sep : Char} {text : List Char} (h : sep ∉ text) : pieces sep text = [text] := by
  induction text with
  | nil => rfl
  | cons c tail ih =>
    simp only [List.mem_cons, not_or] at h
    rw [pieces, if_neg (Ne.symm h.1), ih h.2]

/-- A separator ends the last piece before it. -/
theorem pieces_append_cons (sep : Char) (first rest : List Char) :
    pieces sep (first ++ sep :: rest) = pieces sep first ++ pieces sep rest := by
  induction first with
  | nil => simp [pieces]
  | cons c tail ih =>
    rw [List.cons_append, pieces, ih, pieces]
    by_cases h : c = sep
    · rw [if_pos h, if_pos h, List.cons_append]
    · rw [if_neg h, if_neg h]
      obtain ⟨piece, others, cut⟩ := List.exists_cons_of_ne_nil (pieces_ne_nil sep tail)
      rw [cut]; rfl

/-- Parts without the separator are the pieces of what they are joined to. -/
theorem pieces_joined {sep : Char} {parts : List (List Char)} (nonempty : parts ≠ [])
    (h : ∀ part ∈ parts, sep ∉ part) : pieces sep (joined [sep] parts) = parts := by
  induction parts with
  | nil => exact absurd rfl nonempty
  | cons part others ih =>
    rw [List.forall_mem_cons] at h
    cases others with
    | nil => exact pieces_of_notMem h.1
    | cons next others =>
      rw [joined_cons (by simp), List.append_assoc]
      show pieces sep (part ++ sep :: joined [sep] (next :: others)) = _
      rw [pieces_append_sep h.1, ih (by simp) h.2]

/-- A text that is empty or begins with a separator has an empty piece. -/
theorem nil_mem_pieces {sep : Char} {text : List Char} (begins : ∀ c ∈ text.head?, c = sep) :
    [] ∈ pieces sep text := by
  cases text with
  | nil => simp [pieces]
  | cons c rest =>
    rw [pieces, if_pos (begins c rfl)]
    exact List.mem_cons_self

/-! ## Items one after the other -/

/-- The items of a list are told apart when they are written one after the other: nothing that
begins with an item is an end of the list, an item may be followed by an item, and an item with what
may follow it is no other item. -/
structure Separated {α β : Type} (write : α → List β) (IsItem : α → Prop) (IsEnd : List β → Prop)
    (MayFollow : α → List β → Prop) : Prop where
  notEnd : ∀ a, IsItem a → ∀ rest, ¬ IsEnd (write a ++ rest)
  followed : ∀ a b, IsItem a → IsItem b → ∀ rest, MayFollow a (write b ++ rest)
  inj : ∀ a b, IsItem a → IsItem b → ∀ rest rest', MayFollow a rest → MayFollow b rest' →
    write a ++ rest = write b ++ rest' → a = b ∧ rest = rest'

namespace Separated

variable {α β : Type} {write : α → List β} {IsItem : α → Prop} {IsEnd : List β → Prop}
  {MayFollow : α → List β → Prop}

theorem mayFollow_head (sep : Separated write IsItem IsEnd MayFollow) {a : α} {as : List α}
    {rest : List β} (has : ∀ b ∈ a :: as, IsItem b)
    (last : ∀ b ∈ (a :: as).getLast?, MayFollow b rest) : MayFollow a (as.flatMap write ++ rest) := by
  cases as with
  | nil => exact last a rfl
  | cons b as =>
    rw [List.flatMap_cons, List.append_assoc]
    exact sep.followed a b (has a (by simp)) (has b (by simp)) _

theorem mayFollow_tail {a : α} {as : List α} {rest : List β}
    (last : ∀ b ∈ (a :: as).getLast?, MayFollow b rest) : ∀ b ∈ as.getLast?, MayFollow b rest := by
  cases as with
  | nil => simp
  | cons b as => simpa using last

/-- Lists of items that agree with what ends them are the same list. -/
theorem flatMap_append_inj (sep : Separated write IsItem IsEnd MayFollow) {as bs : List α}
    {rest rest' : List β} (has : ∀ a ∈ as, IsItem a) (hbs : ∀ b ∈ bs, IsItem b)
    (last : ∀ a ∈ as.getLast?, MayFollow a rest) (last' : ∀ b ∈ bs.getLast?, MayFollow b rest')
    (hrest : IsEnd rest) (hrest' : IsEnd rest')
    (same : as.flatMap write ++ rest = bs.flatMap write ++ rest') : as = bs ∧ rest = rest' := by
  induction as generalizing bs with
  | nil =>
    cases bs with
    | nil => exact ⟨rfl, same⟩
    | cons b bs =>
      rw [List.flatMap_nil, List.nil_append, List.flatMap_cons, List.append_assoc] at same
      exact absurd (same ▸ hrest) (sep.notEnd b (hbs b List.mem_cons_self) _)
  | cons a as ih =>
    cases bs with
    | nil =>
      rw [List.flatMap_nil, List.nil_append, List.flatMap_cons, List.append_assoc] at same
      exact absurd (same ▸ hrest') (sep.notEnd a (has a List.mem_cons_self) _)
    | cons b bs =>
      rw [List.flatMap_cons, List.flatMap_cons, List.append_assoc, List.append_assoc] at same
      obtain ⟨rfl, tails⟩ := sep.inj a b (has a List.mem_cons_self) (hbs b List.mem_cons_self) _ _
        (sep.mayFollow_head has last) (sep.mayFollow_head hbs last') same
      obtain ⟨rfl, rests⟩ := ih (fun c hc => has c (List.mem_cons_of_mem _ hc))
        (fun c hc => hbs c (List.mem_cons_of_mem _ hc)) (mayFollow_tail last) (mayFollow_tail last')
        tails
      exact ⟨rfl, rests⟩

end Separated

/-! ## Replacing -/

theorem replaceChar_append (old : Char) (new first second : List Char) :
    replaceChar old new (first ++ second) = replaceChar old new first ++ replaceChar old new second := by
  simp [replaceChar]

theorem replaceChar_of_notMem {old : Char} {text : List Char} (new : List Char) (h : old ∉ text) :
    replaceChar old new text = text := by
  induction text with
  | nil => rfl
  | cons c rest ih =>
    simp only [List.mem_cons, not_or] at h
    have tail : replaceChar old new rest = rest := ih h.2
    rw [replaceChar, List.flatMap_cons, if_neg (Ne.symm h.1)]
    exact congrArg (c :: ·) tail

/-- Every character of the new text was there before or belongs to the replacement. -/
theorem mem_of_mem_replaceChar {old c : Char} {new text : List Char} (h : c ∈ replaceChar old new text) :
    c ∈ text ∨ c ∈ new := by
  obtain ⟨d, hd, hc⟩ := List.mem_flatMap.1 h
  split at hc
  · exact .inr hc
  · rw [List.mem_singleton.1 hc]; exact .inl hd

end SwaggerRoutes.Text

/-
Slots and arguments match in everything that is built. A call whose texts hold no slot adds a fragment
with one slot for each argument, and no call touches what earlier calls have added; so all fragments of
a statement that calls build are matched. The calls for an endpoint are of this kind whatever its texts
are. The main statement is that a class of routes therefore shows every argument once and in order,
each in the place of a slot, and no slot is left.
-/
import SwaggerRoutes.Java.Source
import SwaggerRoutes.Proofs.Route.Content
import SwaggerRoutes.Proofs.Route.Slots

namespace SwaggerRoutes.Route

open SwaggerRoutes.Api SwaggerRoutes.Text

/-! ## Texts without a slot -/

/-- The text holds no slot. -/
def SlotFree (text : String) : Prop := ¬ slot.toList <:+: text.toList

theorem slotCount_cons_of_ne {c : Char} (h : c ≠ '\x7b') (rest : List Char) :
    slotCount (c :: rest) = slotCount rest :=
  slotCount.eq_3 c rest fun _ brace _ => h brace

theorem slotCount_slot (rest : List Char) : slotCount (slot.toList ++ rest) = slotCount rest + 1 := by
  rw [toList_slot]; rfl

/-- Counting goes part by part if no slot begins in the first part and ends in the second. -/
theorem slotCount_append (first : List Char) {second : List Char} (apart : second.head? ≠ some '\x7d') :
    slotCount (first ++ second) = slotCount first + slotCount second := by
  fun_induction slotCount first with
  | case1 => rw [List.nil_append, Nat.zero_add]
  | case2 rest ih => rw [List.cons_append, List.cons_append, slotCount, ih]; omega
  | case3 c rest other ih =>
    rw [List.cons_append, slotCount.eq_3, ih]
    intro tail brace tails
    cases rest with
    | nil => exact apart (congrArg List.head? tails)
    | cons d rest =>
      obtain ⟨rfl, -⟩ := List.cons.inj tails
      exact other rest brace rfl

theorem slotCount_eq_zero_iff {text : List Char} : slotCount text = 0 ↔ ¬ slot.toList <:+: text := by
  rw [toList_slot]
  fun_induction slotCount text with
  | case1 => simp
  | case2 rest ih =>
    refine iff_of_false (Nat.succ_ne_zero _) fun free => free ⟨[], rest, rfl⟩
  | case3 c rest other ih =>
    refine ih.trans ?_
    rw [List.infix_cons_iff, not_or, iff_and_self]
    rintro - ⟨tail, same⟩
    obtain ⟨brace, tails⟩ := List.cons.inj same
    exact other tail brace.symm tails.symm

instance (text : String) : Decidable (SlotFree text) :=
  decidable_of_iff (slotCount text.toList = 0) slotCount_eq_zero_iff

theorem SlotFree.slotCount {text : String} (free : SlotFree text) : slotCount text.toList = 0 :=
  slotCount_eq_zero_iff.2 free

/-! ## Calls -/

/-- Slots with commas between them are as many as the arguments. -/
theorem slotCount_slots (args : List Argument) (rest : List Char) :
    slotCount (slots args ++ rest) = args.length + slotCount rest := by
  cases args with
  | nil => rw [List.length_nil, Nat.zero_add]; rfl
  | cons arg args =>
    rw [slots, List.map_cons, joined_cons_eq, List.append_assoc, slotCount_slot]
    induction args with
    | nil => simp [Nat.add_comm]
    | cons next args ih =>
      rw [List.map_cons, List.flatMap_cons, List.append_assoc, List.append_assoc, List.singleton_append,
        slotCount_cons_of_ne (by decide), slotCount_slot]
      simp only [List.length_cons] at ih ⊢
      omega

/-- An invocation has one slot for each argument. -/
theorem matched_invocation {method : String} (free : SlotFree method) (args : List Argument) :
    (Invocation.fragment ⟨method, args⟩).Matched := by
  have point : "\n.".toList = ['\n', '.'] := by decide
  have paren : "(".toList = ['('] := by decide
  have close : slotCount ")".toList = 0 := by decide
  have parts : (Invocation.fragment ⟨method, args⟩).template.toList =
      '\n' :: '.' :: (method.toList ++ '(' :: (slots args ++ ")".toList)) := by
    simp only [Invocation.fragment, String.toList_append, String.toList_ofList, point, paren,
      List.append_assoc, List.cons_append, List.nil_append]
  show slotCount _ = args.length
  rw [parts, slotCount_cons_of_ne (by decide), slotCount_cons_of_ne (by decide),
    slotCount_append _ (by simp), slotCount_cons_of_ne (by decide), slotCount_slots, free.slotCount,
    close, Nat.zero_add, Nat.add_zero]

theorem matched_of_mem_clause {method : String} (free : SlotFree method) {args : Option (List Argument)}
    {f : Fragment} (h : f ∈ (Clause.mk method args).fragments) : f.Matched := by
  cases args with
  | none => cases h
  | some args =>
    rw [fragments_some, List.mem_singleton] at h
    rw [h]
    exact matched_invocation free args

theorem matched_plain {template : String} (free : SlotFree template) : (Fragment.plain template).Matched :=
  free.slotCount

namespace Call

/-- The texts that a call puts into a template hold no slot, and a fragment that it adds is matched. -/
def Sound : Call → Prop
  | .flag method _ => SlotFree method
  | .constant method _ _ => SlotFree method
  | .raw method _ => SlotFree method
  | .string method _ => SlotFree method
  | .joined method _ => SlotFree method
  | .each method _ => SlotFree method
  | .plain template => SlotFree template
  | .fragment added => added.Matched

instance : DecidablePred Sound := fun call => by
  cases call <;> unfold Sound <;> infer_instance

/-- A sound call adds matched fragments only. -/
theorem Sound.matched {call : Call} (sound : call.Sound) : ∀ f ∈ call.fragments, f.Matched := by
  intro f hf
  cases call with
  | flag method value =>
    rw [fragments_flag] at hf
    exact matched_of_mem_clause sound hf
  | constant method type name =>
    rw [fragments_constant] at hf
    exact matched_of_mem_clause sound hf
  | raw method text =>
    rw [fragments_raw] at hf
    exact matched_of_mem_clause sound hf
  | string method text =>
    rw [fragments_string] at hf
    exact matched_of_mem_clause sound hf
  | joined method values =>
    rw [fragments_joined] at hf
    exact matched_of_mem_clause sound hf
  | each method values =>
    rw [fragments_each] at hf
    exact matched_of_mem_clause sound hf
  | plain template =>
    obtain rfl := List.mem_singleton.1 hf
    exact matched_plain sound
  | fragment added =>
    obtain rfl := List.mem_singleton.1 hf
    exact sound

end Call

/-- A run of sound calls builds matched fragments only. -/
theorem matched_ofCalls {calls : List Call} (sound : ∀ call ∈ calls, call.Sound) :
    ∀ f ∈ (Statement.ofCalls calls).fragments, f.Matched := by
  intro f hf
  obtain ⟨call, hcall, hf⟩ := List.mem_flatMap.1 hf
  exact (sound call hcall).matched f hf

/-! ## Endpoints -/

theorem sound_of_mem_kindCalls {kind : Kind} : ∀ call ∈ kindCalls kind, call.Sound := by
  cases kind with
  | body schema => simp [kindCalls]
  | serializable s =>
    simp only [kindCalls, serializationCalls, List.forall_mem_cons]
    refine ⟨?_, ?_, ?_, ?_, ?_, by simp⟩
    · show SlotFree "dataType"; decide
    · show SlotFree "allowableValues"; decide
    · show SlotFree "collectionFormat"; decide
    · show SlotFree "defaultValue"; decide
    · show SlotFree "arrayType"; decide

theorem sound_of_mem_parameterCalls {parameter : Parameter} :
    ∀ call ∈ parameterCalls parameter, call.Sound := by
  simp only [parameterCalls, List.forall_mem_append, List.forall_mem_cons]
  refine ⟨⟨⟨?_, ?_, ?_, by simp⟩, sound_of_mem_kindCalls⟩, ?_, ?_, ?_, by simp⟩
  · show SlotFree "\n.param()"; decide
  · show SlotFree "name"; decide
  · show SlotFree "type"; decide
  · show SlotFree "required"; decide
  · show SlotFree "description"; decide
  · show SlotFree "\n.endParam()"; decide

/-- The calls for an endpoint are sound, whatever its texts are. -/
theorem sound_of_mem_operationCalls {naming : Naming} {path : String} {method : Method} {o : Operation} :
    ∀ call ∈ operationCalls naming path method o, call.Sound := by
  simp only [operationCalls, List.forall_mem_append, List.forall_mem_cons, List.forall_mem_flatMap]
  refine ⟨⟨⟨?_, ?_, ?_, ?_, ?_, by simp⟩, fun p _ => sound_of_mem_parameterCalls⟩, ?_, by simp⟩
  · show slotCount ("rest." ++ slot ++ "(" ++ slot ++ ")").toList = 2; decide
  · show SlotFree "id"; decide
  · show SlotFree "description"; decide
  · show SlotFree "consumes"; decide
  · show SlotFree "produces"; decide
  · show slotCount (".route().process(" ++ slot ++ ")").toList = 1; decide

/-- All fragments of a class of routes are matched. -/
theorem matched_of_mem_assemble {naming : Naming} {spec : Specification} {s : Statement}
    (h : s ∈ (assemble naming spec).statements) : ∀ f ∈ s.fragments, f.Matched := by
  rcases List.mem_cons.1 h with rfl | h
  · decide
  · obtain ⟨⟨path, item⟩, -, h⟩ := List.mem_flatMap.1 h
    obtain ⟨⟨method, o⟩, -, rfl⟩ := List.mem_map.1 h
    exact matched_ofCalls sound_of_mem_operationCalls

/-! ## What is shown -/

/-- A statement is shown whole: it has one slot for each argument, every way of rendering arguments is
asked for each of them once and in order, and in the source of the class the renderings stand in the
places of the slots. -/
structure Statement.Shown (s : Statement) : Prop where
  matched : ∀ f ∈ s.fragments, f.Matched
  slots : s.layout.count none = s.arguments.length
  rendered : ∀ {m : Type → Type} [Monad m] [LawfulMonad m] (write : Argument → m String),
    s.renderM write = do
      let texts ← s.arguments.mapM write
      return String.ofList (inserted s.layout (texts.map String.toList))
  source : (Java.statement s).toList = Java.statementIndent.toList ++
    Java.indentLines (inserted s.layout (s.arguments.map fun arg => (Java.argument arg).toList))

theorem Statement.shown_of_matched {s : Statement} (matched : ∀ f ∈ s.fragments, f.Matched) :
    s.Shown where
  matched := matched
  slots := Statement.count_none_layout matched
  rendered write := by rw [Statement.renderM_eq write matched, map_eq_pure_bind]
  source := by
    have all : s.arguments.mapM (m := Id) Java.argument = s.arguments.map Java.argument :=
      List.mapM_pure (m := Id) (f := Java.argument)
    have text : s.render Java.argument =
        String.ofList (inserted s.layout (s.arguments.map fun arg => (Java.argument arg).toList)) := by
      rw [Statement.render_eq_renderM, Statement.renderM_eq (m := Id) Java.argument matched, all]
      exact congrArg (fun texts => String.ofList (inserted s.layout texts)) List.map_map
    rw [Java.statement, String.toList_append, String.toList_ofList, text, String.toList_ofList]

/-- In a run of calls each call leaves the fragments before it as they are and adds at most one. If the
calls are sound, all fragments are matched and the statement is shown whole. So is every statement of
every class of routes. -/
theorem statements_shown :
    (∀ (calls : List Call) (call : Call), ∃ added : List Fragment, added.length ≤ 1 ∧
      (Statement.ofCalls (calls ++ [call])).fragments = (Statement.ofCalls calls).fragments ++ added) ∧
    (∀ calls : List Call, (∀ call ∈ calls, call.Sound) → (Statement.ofCalls calls).Shown) ∧
    ∀ (naming : Naming) (spec : Specification), ∀ s ∈ (assemble naming spec).statements, s.Shown := by
  refine ⟨fun calls call => ⟨call.fragments, call.length_fragments_le, ?_⟩, fun calls sound => ?_,
    fun naming spec s hs => ?_⟩
  · rw [Statement.fragments_ofCalls_append]
    simp [Statement.ofCalls]
  · exact Statement.shown_of_matched (matched_ofCalls sound)
  · exact Statement.shown_of_matched (matched_of_mem_assemble hs)

/-- Calls whose methods and templates hold single braces, and whose values hold slots. -/
def bracedCalls : List Call :=
  [.fragment ⟨"rest." ++ slot ++ "(" ++ slot ++ ")", [.literal slot, .str "/pets/\x7bid\x7d"]⟩,
   .string "\x7d" (some slot), .string "note\x7b" (some ""), .each "any" [slot, "\x7b", "\x7d"],
   .plain "\x7d\x7b", .raw "last\x7b" (some slot)]

theorem statements_shown_braced :
    (∀ call ∈ bracedCalls, call.Sound) ∧ (Statement.ofCalls bracedCalls).Shown := by
  have sound : ∀ call ∈ bracedCalls, call.Sound := by decide
  exact ⟨sound, statements_shown.2.1 bracedCalls sound⟩

end SwaggerRoutes.Route

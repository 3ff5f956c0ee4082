import TradingSignals.Proofs.Json.Spelled
import TradingSignals.Proofs.Strategy.RoundTrip
import TradingSignals.Proofs.Strategy.Schema

namespace TradingSignals

/-- What the value of an argument may be: a number or a text. -/
def JsonTree.IsScalar : Json → Prop
  | .int _ | .float _ | .text _ => True
  | _ => False

def SignalList.field : SignalList → FieldName
  | .entry => StrategyField.entrySignals
  | .exit => StrategyField.exitSignals

/-- The steps to a signal from the list that its tree stands in: its place in the list, then a
child at each level. -/
inductive StepsTo : List Nat → List LocStep → Prop
  | root {i : Nat} : StepsTo [i] [.index i]
  | child {i : Nat} {p : List Nat} {steps : List LocStep} (spelling : Spelling)
    (h : StepsTo p steps) :
    StepsTo (i :: p) (.index i :: .key (SignalField.children.spelled spelling) :: steps)

/-- The steps to an argument from the document, each field under one of its two names. -/
inductive ArgumentPlace (list : SignalList) (p : List Nat) (k : String) : List LocStep → Prop
  | mk {steps : List LocStep} (strategy forest args : Spelling) (h : StepsTo p steps) :
    ArgumentPlace list p k (.key (StrategyField.strategy.spelled strategy) ::
      .key (list.field.spelled forest) ::
      (steps ++ [.key (SignalField.args.spelled args), .key k]))

namespace Decode

theorem scalar_eq_ok_iff {v : Json} {x : Scalar} :
    scalar v = .ok x ↔ v.IsScalar ∧ v = x.toJson := by
  cases v <;> cases x <;> simp [scalar, JsonTree.IsScalar, Scalar.toJson, eq_comm]

theorem exists_fault_of_scalar {v : Json} (h : ¬v.IsScalar) : ∃ f, f ∈ (scalar v).faults := by
  cases v with
  | int n => exact absurd trivial h
  | float x => exact absurd trivial h
  | text s => exact absurd trivial h
  | _ => exact ⟨_, List.mem_cons_self⟩

/-- An argument is what was written under its key. -/
theorem exists_written_of_args {v : Json} {entries : List (String × Scalar)} {k : String}
    {x : Scalar} (h : args v = .ok entries) (hx : (k, x) ∈ entries) :
    ∃ w, PartAt .args v [.key k] .argument w ∧ w.IsScalar ∧ w = x.toJson := by
  unfold args at h
  split at h
  · next fields =>
    obtain ⟨written, hw, rfl⟩ := args_object_eq_ok_iff.1 h
    have hmem : (k, x) ∈ written :=
      ((foldl_putField_sound written [] List.nodup_nil).2 _ hx).resolve_left List.not_mem_nil
    obtain ⟨⟨k', w⟩, hf, hk, hs⟩ := exists_mem_of_forall₂ (scalars_eq_ok_iff.1 hw) hmem
    cases hk
    exact ⟨w, .key hf .here, scalar_eq_ok_iff.1 hs⟩
  · cases h

theorem exists_part_of_args {v : Json} {n : SignalNode} {k : String} {x : Scalar}
    (h : signal (levels .document) v = .ok n) (hx : (k, x) ∈ n.args) :
    ∃ spelling w, PartAt .signal v [.key (SignalField.args.spelled spelling), .key k] .argument w ∧
      w.IsScalar ∧ w = x.toJson := by
  obtain ⟨fields, rfl⟩ := exists_object_of_signal h
  obtain ⟨-, hargs, -, -⟩ := (signal_object_eq_ok_iff (by simp [levels])).1 h
  obtain ⟨spelling, v, hv, ha⟩ := FieldName.exists_of_withDefault hargs (List.ne_nil_of_mem hx)
  obtain ⟨w, hw, hs⟩ := exists_written_of_args ha hx
  exact ⟨spelling, w, .field (by decide) hv hw, hs⟩

/-- Every signal of a list was read at the place that its position names. -/
theorem exists_part_of_subtree {v : Json} {nodes : List SignalNode} {n m : SignalNode} {i : Nat}
    {p : List Nat} (h : signalList (levels .document) v = .ok nodes) (hi : nodes[i]? = some n)
    (hm : n.subtree? p = some m) :
    ∃ steps w, StepsTo (i :: p) steps ∧ PartAt .signals v steps .signal w ∧
      signal (levels .document) w = .ok m := by
  induction p generalizing v nodes n i with
  | nil =>
    obtain ⟨items, rfl⟩ := exists_array_of_signalList h
    rw [signalList_array, signalItems_eq_ok_iff] at h
    obtain ⟨w, hw, hs⟩ := exists_of_rel_right (rel_getElem? h i) hi
    rw [SignalNode.subtree?_nil, Option.some.injEq] at hm
    exact ⟨_, w, .root, .index hw .here, hm ▸ hs⟩
  | cons j p ih =>
    obtain ⟨items, rfl⟩ := exists_array_of_signalList h
    rw [signalList_array, signalItems_eq_ok_iff] at h
    obtain ⟨w, hw, hs⟩ := exists_of_rel_right (rel_getElem? h i) hi
    obtain ⟨fields, rfl⟩ := exists_object_of_signal hs
    obtain ⟨-, -, hchildren, -⟩ := (signal_object_eq_ok_iff (by simp [levels])).1 hs
    obtain ⟨id, args, children, rule⟩ := n
    obtain ⟨c, hj, hm⟩ := SignalNode.subtree?_cons_eq_some.1 hm
    have hne : children ≠ [] := List.ne_nil_of_mem (List.mem_of_getElem? hj)
    obtain ⟨spelling, v, hv, hc⟩ := FieldName.exists_of_withDefault hchildren hne
    obtain ⟨steps, u, hsteps, hu, hread⟩ := ih hc hj hm
    exact ⟨_, u, .child spelling hsteps, .index hw (.field (by decide) hv hu), hread⟩

/-- Every argument of a document was written at the place that its signal and key name. -/
theorem exists_part_of_document {v : Json} {d : StrategyDocument} {list : SignalList} {i : Nat}
    {p : List Nat} {n m : SignalNode} {k : String} {x : Scalar}
    (h : strategyDocument .document v = .ok d) (hi : (d.signals list)[i]? = some n)
    (hm : n.subtree? p = some m) (hx : (k, x) ∈ m.args) :
    ∃ loc w, ArgumentPlace list (i :: p) k loc ∧ PartAt .document v loc .argument w ∧
      w.IsScalar ∧ w = x.toJson := by
  obtain ⟨fields, rfl, -, hstrategy⟩ := strategyDocument_eq_ok_iff.1 h
  obtain ⟨version, s⟩ := d
  cases s with
  | none => cases hi
  | some s =>
    obtain ⟨strategy, v, hv, hread⟩ := FieldName.exists_of_nullable hstrategy
    obtain ⟨fields', rfl, hentry, hexit, -, -⟩ := strategy_eq_ok_iff.1 hread
    have hne : s.signals list ≠ [] := List.ne_nil_of_mem (List.mem_of_getElem? hi)
    have hlist : ∃ forest u, (list.field.spelled forest, u) ∈ fields' ∧
        signalList (levels .document) u = .ok (s.signals list) := by
      cases list with
      | entry => exact FieldName.exists_of_withDefault hentry hne
      | exit => exact FieldName.exists_of_withDefault hexit hne
    have hfield : (list.field, Role.signals) ∈ Role.strategy.fields := by cases list <;> decide
    obtain ⟨forest, u, hu, hnodes⟩ := hlist
    obtain ⟨steps, w, hsteps, hpart, hsignal⟩ := exists_part_of_subtree hnodes hi hm
    obtain ⟨args, y, hy, hs⟩ := exists_part_of_args hsignal hx
    refine ⟨_, y, .mk strategy forest args hsteps, ?_, hs⟩
    exact .field (by decide) hv (.field hfield hu (hpart.trans hy))

theorem mem_faults_scalars {fields : List (String × Json)} {k : String} {v : Json}
    {f : SchemaFault} (hv : (k, v) ∈ fields) (hf : f ∈ (scalar v).faults) :
    f.under (.key k) ∈ (scalars fields).faults := by
  induction fields with
  | nil => cases hv
  | cons e fields ih =>
    obtain ⟨k', v'⟩ := e
    rw [scalars, Decoded.faults_seq, Decoded.faults_fmap, Decoded.faults_inside, List.mem_append]
    rcases List.mem_cons.1 hv with he | hv
    · cases he
      exact Or.inl (List.mem_map_of_mem hf)
    · exact Or.inr (ih hv)

end Decode

namespace Role

theorem part_ne_argument {role : Role} {k : String} (hr : role ≠ .args) :
    role.part k ≠ .argument := by
  intro h
  obtain ⟨name, -, hf, -⟩ := exists_field_of_part hr (by rw [h]; decide)
  rw [h] at hf
  have hnone : ∀ f ∈ role.fields, f.2 ≠ .argument := by cases role <;> decide
  exact hnone _ hf rfl

/-- What does not fit in a field does not fit in the object. -/
theorem mem_faults_of_field {role inner : Role} {name : FieldName} {spelling : Spelling}
    {fields : List (String × Json)} {v : Json} {f : SchemaFault}
    (hname : (name, inner) ∈ role.fields)
    (hfind : name.find? fields = some (name.spelled spelling, v)) (hv : v ≠ .null)
    (hf : f ∈ (inner.decode v).faults) :
    f.under (.key (name.spelled spelling)) ∈ (role.decode (.object fields)).faults := by
  have hinner : inner ≠ .leaf := by
    rintro rfl
    cases hf
  cases role with
  | document =>
    have hone : ∀ f ∈ Role.document.fields, f.2 ≠ .leaf →
        f = (StrategyField.strategy, .strategy) := by decide
    cases hone _ hname hinner
    show f.under _ ∈ (Decode.strategyDocument .document (.object fields)).faults
    rw [Decode.strategyDocument, Decode.object, Decoded.faults_seq, List.mem_append]
    exact Or.inr (FieldName.mem_faults_nullable hfind hv hf)
  | strategy =>
    have hone : ∀ f ∈ Role.strategy.fields, f.2 ≠ .leaf →
        f = (StrategyField.entrySignals, .signals) ∨ f = (StrategyField.exitSignals, .signals) ∨
          f = (StrategyField.settings, .settings) := by decide
    show f.under _ ∈ (Decode.strategy .document (.object fields)).faults
    simp only [Decode.strategy, Decode.object, Decoded.faults_seq, Decoded.faults_fmap,
      List.mem_append]
    rcases hone _ hname hinner with h | h | h
    · cases h
      exact .inl (.inl (.inl (FieldName.mem_faults_withDefault hfind hf)))
    · cases h
      exact .inl (.inl (.inr (FieldName.mem_faults_withDefault hfind hf)))
    · cases h
      exact .inl (.inr (FieldName.mem_faults_nullable hfind hv hf))
  | signal =>
    have hone : ∀ f ∈ Role.signal.fields, f.2 ≠ .leaf →
        f = (SignalField.args, .args) ∨ f = (SignalField.children, .signals) := by decide
    show f.under _ ∈ (Decode.signal (Decode.levels .document) (.object fields)).faults
    rw [Decode.signal_object (by simp [Decode.levels])]
    simp only [Decoded.faults_seq, Decoded.faults_fmap, List.mem_append]
    rcases hone _ hname hinner with h | h
    · cases h
      exact .inl (.inl (.inr (FieldName.mem_faults_withDefault hfind hf)))
    · cases h
      exact .inl (.inr (FieldName.mem_faults_withDefault hfind hf))
  | settings =>
    have hnone : ∀ f ∈ Role.settings.fields, f.2 = .leaf := by decide
    exact absurd (hnone _ hname) hinner
  | _ => cases hname

end Role

/-- What does not fit as an argument does not fit in the whole, and is reported at its place. -/
theorem PartAt.exists_fault {role : Role} {v w : Json} {loc : List LocStep} {f : SchemaFault}
    (h : PartAt role v loc .argument w) (ho : role.Once v) (hf : f ∈ (Decode.scalar w).faults) :
    ∃ g ∈ (role.decode v).faults, g.loc = loc ++ f.loc := by
  generalize ht : Role.argument = target at h
  induction h with
  | here =>
    subst ht
    exact ⟨f, hf, rfl⟩
  | @key role target fields k v w loc hk h ih =>
    obtain ⟨g, hg, hloc⟩ := ih (ho.key hk) hf ht
    have hunder : (g.under (.key k)).loc = .key k :: loc ++ f.loc :=
      congrArg (LocStep.key k :: ·) hloc
    by_cases hr : role = .args
    · subst hr
      refine ⟨_, ?_, hunder⟩
      show g.under _ ∈ (Decode.args (.object fields)).faults
      rw [Decode.args, Decoded.faults_map]
      exact Decode.mem_faults_scalars hk hg
    · -- a null has no parts, and it is not an argument itself
      have hnull : v ≠ .null := by
        rintro rfl
        cases h
        exact Role.part_ne_argument hr ht.symm
      have hleaf : role.part k ≠ .leaf := by
        intro he
        rw [he] at hg
        cases hg
      obtain ⟨name, spelling, hname, rfl⟩ := Role.exists_field_of_part hr hleaf
      have hone := ho [] _ _ .here
      have hfind := hone.names.find?_eq_some hname (lastField?_of_mem hone.keys hk)
      exact ⟨_, Role.mem_faults_of_field hname hfind hnull hg, hunder⟩
  | @index role target items i v w loc hi h ih =>
    obtain ⟨g, hg, hloc⟩ := ih (ho.index hi) hf ht
    cases role with
    | signals =>
      refine ⟨g.under (.index i), ?_, congrArg (LocStep.index i :: ·) hloc⟩
      rw [Role.decode, Decode.signalList_array, Decode.signalItems_eq_indexed]
      have hitem : g.under (.index (0 + i)) ∈ _ := Decode.mem_faults_indexed hi hg
      rw [Nat.zero_add] at hitem
      exact hitem
    | _ => cases hg

namespace StrategyDocument

/-- Only numbers and texts reach a document as arguments, each as the kind it was written in, and
whatever else a signal holds as an argument is reported at its place. -/
theorem args_kept (text : String) :
    (∀ d, read text = .ok d → ∃ v, readJson .strict text = .ok v) ∧
    ∀ v, readJson .strict text = .ok v → v.SpelledBy text ∧
      (∀ d, read text = .ok d → ∀ (list : SignalList) (i : Nat) (n : SignalNode) (p : List Nat)
        (m : SignalNode) (k : String) (x : Scalar), (d.signals list)[i]? = some n →
        n.subtree? p = some m → (k, x) ∈ m.args →
        ∃ loc w, ArgumentPlace list (i :: p) k loc ∧ PartAt .document v loc .argument w ∧
          w.IsScalar ∧ w = x.toJson) ∧
      (Role.document.Once v → ∀ loc w, PartAt .document v loc .argument w → ¬w.IsScalar →
        ∃ faults, read text = .error (.misfit faults) ∧ ∃ f ∈ faults, loc <+: f.loc) := by
  refine ⟨?_, ?_⟩
  · intro d hd
    obtain ⟨v, hv, -⟩ := decodeText_eq_ok_iff.1 hd
    exact ⟨v, hv⟩
  · intro v hv
    refine ⟨spelledBy_of_readJson hv, ?_, ?_⟩
    · intro d hd list i n p m k x hi hm hx
      obtain ⟨v', hv', hread⟩ := decodeText_eq_ok_iff.1 hd
      cases hv.symm.trans hv'
      exact Decode.exists_part_of_document hread hi hm hx
    · intro ho loc w hw hscalar
      obtain ⟨f, hf⟩ := Decode.exists_fault_of_scalar hscalar
      obtain ⟨g, hg, hloc⟩ := hw.exists_fault ho hf
      refine ⟨_, ?_, g, hg, hloc ▸ List.prefix_append loc f.loc⟩
      rw [read, decodeText_of_readJson hv]
      exact Decoded.toExcept_of_mem_faults hg

/-- A text that looks like a number stays a text; a truth value is found below, under plain
names. -/
theorem number_in_text_kept :
    let kept : Json := .object [("Strategy", .object [("ExitSignals", .array [.object
      [("Args", .object [("Period", .int 14), ("Word", .text "14")])]])])]
    let refused : Json := .object [("strategy", .object [("EntrySignals", .array [.object
      [("Children", .array [.object [("args", .object [("Period", .bool true)])]])]])])]
    (∃ d n loc, read (kept.write (.document 0)) = .ok d ∧ (d.signals .exit)[0]? = some n ∧
      ("Word", .text "14") ∈ n.args ∧ ArgumentPlace .exit [0] "Word" loc ∧
      PartAt .document kept loc .argument (.text "14")) ∧
    ∃ faults, read (refused.write (.document 0)) = .error (.misfit faults) ∧
      ∃ f ∈ faults, [.key "strategy", .key "EntrySignals", .index 0, .key "Children", .index 0,
        .key "args", .key "Period"] <+: f.loc := by
  intro kept refused
  have hkept : readJson .strict (kept.write (.document 0)) = .ok kept :=
    readJson_write JsonStyle.readable_document ⟨by decide +kernel, by decide +kernel⟩
  have hrefused : readJson .strict (refused.write (.document 0)) = .ok refused :=
    readJson_write JsonStyle.readable_document ⟨by decide +kernel, by decide +kernel⟩
  refine ⟨?_, ?_⟩
  · obtain ⟨d, hd, hp⟩ : ∃ d, read (kept.write (.document 0)) = .ok d ∧
        ((d.signals .exit)[0]?.any fun n => n.args.contains ("Word", .text "14")) := by
      rw [← any_toOption_iff]
      decide +kernel
    obtain ⟨n, hn, hargs⟩ := (Option.any_eq_true _ _).1 hp
    have hx : ("Word", Scalar.text "14") ∈ n.args := List.contains_iff_mem.1 hargs
    obtain ⟨-, hread⟩ := args_kept (kept.write (.document 0))
    obtain ⟨loc, w, hloc, hw, -, rfl⟩ :=
      (hread kept hkept).2.1 d hd .exit 0 n [] n "Word" _ hn (SignalNode.subtree?_nil n) hx
    exact ⟨d, n, loc, hd, hn, hx, hloc, hw⟩
  · have hplace : PartAt .document refused [.key "strategy", .key "EntrySignals", .index 0,
        .key "Children", .index 0, .key "args", .key "Period"] .argument (.bool true) :=
      .key (.head _) (.key (.head _) (.index rfl (.key (.head _) (.index rfl
        (.key (.head _) (.key (.head _) .here))))))
    have honce : Role.document.Once refused := by
      simp only [refused, Role.once_object, Role.once_array, List.forall_mem_singleton,
        Role.once_bool, and_true]
      exact ⟨⟨by decide, by decide⟩, ⟨by decide, by decide⟩, ⟨by decide, by decide⟩,
        ⟨by decide, by decide⟩, ⟨by decide, by decide⟩⟩
    exact ((args_kept _).2 refused hrefused).2.2 honce _ _ hplace id

end StrategyDocument

end TradingSignals

import TradingSignals.Proofs.Related
import TradingSignals.Proofs.Strategy.RoundTrip
import TradingSignals.Proofs.Strategy.Schema

namespace TradingSignals

/-- The closure of a rewriting of single objects: any of the objects that the model reads, at any
depth and one after the other. Arguments are not looked into. -/
inductive Rewritten
    (step : Role → List (String × Json) → List (String × Json) → Prop) : Role → Json → Json → Prop
  | refl {role : Role} {v : Json} : Rewritten step role v v
  | trans {role : Role} {u v w : Json} (h : Rewritten step role u v)
    (h' : Rewritten step role v w) : Rewritten step role u w
  | object {role : Role} {fields fields' : List (String × Json)} (hr : role.fields ≠ [])
    (h : step role fields fields') : Rewritten step role (.object fields) (.object fields')
  | field {role inner : Role} {name : FieldName} {spelling : Spelling}
    {before after : List (String × Json)} {v w : Json} (hf : (name, inner) ∈ role.fields)
    (h : Rewritten step inner v w) :
    Rewritten step role (.object (before ++ (name.spelled spelling, v) :: after))
      (.object (before ++ (name.spelled spelling, w) :: after))
  | item {before after : List Json} {v w : Json} (h : Rewritten step .signal v w) :
    Rewritten step .signals (.array (before ++ v :: after)) (.array (before ++ w :: after))

/-- The same key, or the other name of the same field. -/
def Role.SameField (role : Role) (k k' : String) : Prop :=
  k' = k ∨ ∃ f ∈ role.fields, ∃ a b, k = f.1.spelled a ∧ k' = f.1.spelled b

/-- Keys are changed to the other name of their field. Different keys stay different, and in the
end no field is there under both names. -/
def Renamed (role : Role) (fields fields' : List (String × Json)) : Prop :=
  ∃ σ : String → String, (∀ k, role.SameField k (σ k)) ∧
    Set.InjOn σ {k | k ∈ fields.map Prod.fst} ∧
    fields' = fields.map (Prod.map σ id) ∧ role.OneName fields'

/-- A key by its other name, if it is one of a field. -/
def FieldName.other (name : FieldName) (k : String) : String :=
  if k = name.wire then name.plain else if k = name.plain then name.wire else k

/-- A field that is there under its wire name loses all that is there under its plain one. -/
def Overridden (role : Role) (fields fields' : List (String × Json)) : Prop :=
  ∃ f ∈ role.fields, f.1.wire ∈ fields.map Prod.fst ∧
    fields' = fields.filter fun e => e.1 ≠ f.1.plain

namespace FieldName

variable {α : Type} {name : FieldName} {decode : Json → Decoded α}
  {fields fields' : List (String × Json)} {R : Json → Json → Prop}

/-- The value that is read for a field. -/
def used (name : FieldName) (fields : List (String × Json)) : Option Json :=
  (name.find? fields).map Prod.snd

theorem used_eq : name.used fields =
    (lastField? (name.spelled .wire) fields).or (lastField? (name.spelled .plain) fields) := by
  unfold used find? spelled
  cases lastField? name.wire fields with
  | some v => rfl
  | none => cases lastField? name.plain fields <;> rfl

theorem value?_withDefault {a : α} :
    (name.withDefault a decode fields).value? =
      (name.used fields).elim (some a) fun v => (decode v).value? := by
  unfold withDefault used
  cases name.find? fields with
  | none => rfl
  | some f => exact Decoded.value?_inside

theorem value?_nullable :
    (name.nullable decode fields).value? = match name.used fields with
      | none | some .null => some none
      | some v => (decode v).value?.map some := by
  unfold nullable used
  cases name.find? fields with
  | none => rfl
  | some f =>
    obtain ⟨k, v⟩ := f
    cases v with
    | null => rfl
    | _ =>
      dsimp only [Option.map_some]
      rw [Decoded.value?_inside, Decoded.value?_map]

theorem withDefault_congr (h : Option.Rel R (name.used fields) (name.used fields'))
    (hR : ∀ v w, R v w → (decode v).value? = (decode w).value?) {a : α} :
    (name.withDefault a decode fields).value? = (name.withDefault a decode fields').value? := by
  rw [value?_withDefault, value?_withDefault]
  generalize name.used fields = o at h
  generalize name.used fields' = o' at h
  cases h with
  | none => rfl
  | some h => exact hR _ _ h

theorem nullable_congr (h : Option.Rel R (name.used fields) (name.used fields'))
    (hR : ∀ v w, R v w → (v = .null ↔ w = .null) ∧ (decode v).value? = (decode w).value?) :
    (name.nullable decode fields).value? = (name.nullable decode fields').value? := by
  rw [value?_nullable, value?_nullable]
  generalize name.used fields = o at h
  generalize name.used fields' = o' at h
  cases h with
  | none => rfl
  | @some v w h =>
    obtain ⟨hnull, hvalue⟩ := hR _ _ h
    by_cases hv : v = .null
    · rw [hv, hnull.1 hv]
    · have hw : w ≠ .null := fun hw => hv (hnull.2 hw)
      cases v <;> cases w <;> simp_all

end FieldName

/-- Two values that are read as the same, and are null together. -/
structure Role.SameReading (role : Role) (v w : Json) : Prop where
  null : v = .null ↔ w = .null
  value : (role.decode v).value? = (role.decode w).value?

namespace Role.SameReading

variable {role : Role} {u v w : Json}

theorem refl : role.SameReading v v := ⟨Iff.rfl, rfl⟩

theorem trans (h : role.SameReading u v) (h' : role.SameReading v w) : role.SameReading u w :=
  ⟨h.null.trans h'.null, h.value.trans h'.value⟩

theorem eq_of_leaf (h : Role.leaf.SameReading v w) : v = w := Option.some.inj h.value

section

variable {name : FieldName} {fields fields' : List (String × Json)}

theorem withDefault (h : Option.Rel role.SameReading (name.used fields) (name.used fields'))
    {a : role.Reading} :
    (name.withDefault a role.decode fields).value? =
      (name.withDefault a role.decode fields').value? :=
  FieldName.withDefault_congr h fun _ _ hr => hr.value

theorem nullable (h : Option.Rel role.SameReading (name.used fields) (name.used fields')) :
    (name.nullable role.decode fields).value? = (name.nullable role.decode fields').value? :=
  FieldName.nullable_congr h fun _ _ hr => ⟨hr.null, hr.value⟩

theorem withDefault_leaf {α : Type} {decode : Json → Decoded α}
    (h : Option.Rel Role.leaf.SameReading (name.used fields) (name.used fields')) {a : α} :
    (name.withDefault a decode fields).value? = (name.withDefault a decode fields').value? :=
  FieldName.withDefault_congr h fun _ _ hr => by rw [hr.eq_of_leaf]

theorem nullable_leaf {α : Type} {decode : Json → Decoded α}
    (h : Option.Rel Role.leaf.SameReading (name.used fields) (name.used fields')) :
    (name.nullable decode fields).value? = (name.nullable decode fields').value? :=
  FieldName.nullable_congr h fun _ _ hr => by rw [hr.eq_of_leaf]; exact ⟨Iff.rfl, rfl⟩

/-- An object is read by the values of its fields only. -/
theorem object (hr : role.fields ≠ [])
    (h : ∀ f ∈ role.fields, Option.Rel f.2.SameReading (f.1.used fields) (f.1.used fields')) :
    role.SameReading (.object fields) (.object fields') := by
  refine ⟨by simp, ?_⟩
  cases role with
  | document =>
    simp only [Role.fields, List.forall_mem_cons] at h
    obtain ⟨hversion, hstrategy, -⟩ := h
    have hstrategy : (StrategyField.strategy.nullable (Decode.strategy .document) fields).value? =
      _ := nullable hstrategy
    show (Decode.strategyDocument .document (.object fields)).value? =
      (Decode.strategyDocument .document (.object fields')).value?
    simp only [Decode.strategyDocument, Decode.object, Decoded.value?_seq, Decoded.value?_fmap]
    rw [withDefault_leaf hversion, hstrategy]
    rfl
  | strategy =>
    simp only [Role.fields, List.forall_mem_cons] at h
    obtain ⟨hentry, hexit, hsettings, hquestion, -⟩ := h
    have hentry : (StrategyField.entrySignals.withDefault []
      (Decode.signalList (Decode.levels .document)) fields).value? = _ := withDefault hentry
    have hexit : (StrategyField.exitSignals.withDefault []
      (Decode.signalList (Decode.levels .document)) fields).value? = _ := withDefault hexit
    have hsettings : (StrategyField.settings.nullable (Decode.settings .document) fields).value? =
      _ := nullable hsettings
    show (Decode.strategy .document (.object fields)).value? =
      (Decode.strategy .document (.object fields')).value?
    simp only [Decode.strategy, Decode.object, Decoded.value?_seq, Decoded.value?_fmap]
    rw [hentry, hexit, hsettings, nullable_leaf hquestion]
    rfl
  | settings =>
    simp only [Role.fields, List.forall_mem_cons] at h
    obtain ⟨hsymbol, htimeframe, hstart, hend, hsize, hpositions, hdays, hentry, hexit, -⟩ := h
    show (Decode.settings .document (.object fields)).value? =
      (Decode.settings .document (.object fields')).value?
    simp only [Decode.settings, Decode.object, Decoded.value?_seq, Decoded.value?_fmap]
    rw [nullable_leaf hsymbol, nullable_leaf htimeframe, nullable_leaf hstart, nullable_leaf hend,
      nullable_leaf hsize, nullable_leaf hpositions, nullable_leaf hdays, nullable_leaf hentry,
      nullable_leaf hexit]
  | signal =>
    simp only [Role.fields, List.forall_mem_cons] at h
    obtain ⟨hid, hargs, hchildren, hmode1, hoperation1, hcross, hmode2, hoperation2, -⟩ := h
    have hargs : (SignalField.args.withDefault [] Decode.args fields).value? = _ :=
      withDefault hargs
    have hchildren : (SignalField.children.withDefault []
      (Decode.signalList (Decode.levels .document)) fields).value? = _ := withDefault hchildren
    have hrule : (Decode.rule fields).value? = (Decode.rule fields').value? := by
      simp only [Decode.rule, Decoded.value?_seq, Decoded.value?_fmap]
      rw [nullable_leaf hmode1, nullable_leaf hoperation1, nullable_leaf hcross,
        nullable_leaf hmode2, nullable_leaf hoperation2]
    have hroom : Decode.levels .document ≠ some 0 := by decide
    show (Decode.signal (Decode.levels .document) (.object fields)).value? =
      (Decode.signal (Decode.levels .document) (.object fields')).value?
    have hbelow : (Decode.levels .document).map (· - 1) = Decode.levels .document := rfl
    rw [Decode.signal_object hroom, Decode.signal_object hroom, hbelow]
    simp only [Decoded.value?_seq, Decoded.value?_fmap]
    rw [withDefault_leaf hid, hargs, hchildren, hrule]
    rfl
  | _ => exact absurd rfl hr

end

end Role.SameReading

/-- A key belongs to one field only. -/
theorem Role.field_unique {role : Role} {f g : FieldName × Role} {a b : Spelling}
    (hf : f ∈ role.fields) (hg : g ∈ role.fields) (h : f.1.spelled a = g.1.spelled b) : f = g := by
  have hfound := field?_of_mem hf a
  rw [h, field?_of_mem hg b] at hfound
  exact (Option.some.inj hfound).symm

theorem Role.wire_ne_plain {role : Role} {f : FieldName × Role} (hf : f ∈ role.fields) :
    f.1.wire ≠ f.1.plain := by
  have hall : ∀ f ∈ role.fields, f.1.wire ≠ f.1.plain := by cases role <;> decide +kernel
  exact hall f hf

section

variable {fields before after : List (String × Json)} {k l : String} {v w : Json}
  {σ : String → String}

/-- Another value under a key is found there, or a later one is. -/
theorem lastField?_changed :
    (lastField? l (before ++ (k, v) :: after) = lastField? l (before ++ (k, w) :: after)) ∨
      l = k ∧ lastField? l (before ++ (k, v) :: after) = some v ∧
        lastField? l (before ++ (k, w) :: after) = some w := by
  rw [lastField?_append, lastField?_append, lastField?, lastField?]
  cases lastField? l after with
  | some u => exact Or.inl rfl
  | none =>
    by_cases hk : k == l
    · rw [if_pos hk, if_pos hk]
      exact Or.inr ⟨(eq_of_beq hk).symm, rfl, rfl⟩
    · rw [if_neg hk, if_neg hk]
      exact Or.inl rfl

theorem lastField?_filter_ne (h : l ≠ k) :
    lastField? l (fields.filter fun e => e.1 ≠ k) = lastField? l fields := by
  induction fields with
  | nil => rfl
  | cons e fields ih =>
    rw [lastField?, List.filter_cons]
    split
    · rw [lastField?, ih]
    · next hk =>
      have hl : ¬(e.1 == l) := by
        rw [beq_iff_eq]
        rintro rfl
        exact hk (decide_eq_true h)
      rw [ih, if_neg hl]
      simp

/-- A key is looked up under its new name, if no other key was given the same. -/
theorem lastField?_map_key (h : ∀ e ∈ fields, σ e.1 = σ k → e.1 = k) :
    lastField? (σ k) (fields.map (Prod.map σ id)) = lastField? k fields := by
  induction fields with
  | nil => rfl
  | cons e fields ih =>
    rw [List.forall_mem_cons] at h
    have hk : (σ e.1 == σ k) = (e.1 == k) :=
      Bool.eq_iff_iff.2 (by rw [beq_iff_eq, beq_iff_eq]; exact ⟨h.1, congrArg σ⟩)
    rw [List.map_cons, lastField?, lastField?, ih h.2, Prod.map_fst, hk]
    rfl

end

namespace Role

variable {role : Role} {f : FieldName × Role} {fields fields' : List (String × Json)}
  {k k' : String}

/-- The other name of a field is a name of no other one. -/
theorem SameField.spelled (h : role.SameField k k') (hf : f ∈ role.fields) :
    (∃ a, k = f.1.spelled a) ↔ ∃ a, k' = f.1.spelled a := by
  rcases h with rfl | ⟨g, hg, a, b, rfl, rfl⟩
  · exact Iff.rfl
  · constructor
    · rintro ⟨c, hc⟩
      rw [field_unique hg hf hc]
      exact ⟨b, rfl⟩
    · rintro ⟨c, hc⟩
      rw [field_unique hg hf hc]
      exact ⟨a, rfl⟩

theorem used_eq_none (h : ∀ a, f.1.spelled a ∉ fields.map Prod.fst) : f.1.used fields = none := by
  rw [FieldName.used_eq, lastField?_eq_none_iff.2 (h .wire), lastField?_eq_none_iff.2 (h .plain)]
  rfl

theorem renamed_other (hf : f ∈ role.fields)
    (h : role.OneName (fields.map (Prod.map f.1.other id))) :
    Renamed role fields (fields.map (Prod.map f.1.other id)) := by
  have hinv : Function.Involutive f.1.other := by
    have hne := wire_ne_plain hf
    intro k
    unfold FieldName.other
    split_ifs <;> simp_all
  refine ⟨f.1.other, ?_, hinv.injective.injOn, rfl, h⟩
  intro k
  unfold FieldName.other
  split_ifs with hwire hplain
  · exact Or.inr ⟨f, hf, .wire, .plain, hwire, rfl⟩
  · exact Or.inr ⟨f, hf, .plain, .wire, hplain, rfl⟩
  · exact Or.inl rfl

/-- The renamed object had no field under both names either. -/
theorem oneName_of_renamed (h : Renamed role fields fields') : role.OneName fields := by
  obtain ⟨σ, hsame, hinj, rfl, hone⟩ := h
  intro f hf hwire hplain
  have hkeys : ∀ k ∈ fields.map Prod.fst, σ k ∈ (fields.map (Prod.map σ id)).map Prod.fst := by
    intro k hk
    obtain ⟨e, he, rfl⟩ := List.mem_map.1 hk
    exact List.mem_map.2 ⟨_, List.mem_map_of_mem he, rfl⟩
  obtain ⟨a, ha⟩ := ((hsame f.1.wire).spelled hf).1 ⟨.wire, rfl⟩
  obtain ⟨b, hb⟩ := ((hsame f.1.plain).spelled hf).1 ⟨.plain, rfl⟩
  have hne : a ≠ b := by
    rintro rfl
    exact wire_ne_plain hf (hinj hwire hplain (ha.trans hb.symm))
  have hnew := hkeys _ hwire
  have hnew' := hkeys _ hplain
  rw [ha] at hnew
  rw [hb] at hnew'
  cases a with
  | wire =>
    cases b with
    | wire => exact hne rfl
    | plain => exact hone f hf hnew hnew'
  | plain =>
    cases b with
    | wire => exact hone f hf hnew' hnew
    | plain => exact hne rfl

/-- A field is read the same under its other name. -/
theorem used_of_renamed (h : Renamed role fields fields') (hf : f ∈ role.fields) :
    f.1.used fields = f.1.used fields' := by
  have hold := oneName_of_renamed h
  obtain ⟨σ, hsame, hinj, rfl, hone⟩ := h
  by_cases hk : ∃ a, f.1.spelled a ∈ fields.map Prod.fst
  · obtain ⟨a, ha⟩ := hk
    obtain ⟨v, hv⟩ := exists_lastField? ha
    obtain ⟨b, hb⟩ := ((hsame (f.1.spelled a)).spelled hf).1 ⟨a, rfl⟩
    have hnew : lastField? (σ (f.1.spelled a)) (fields.map (Prod.map σ id)) = some v := by
      rw [lastField?_map_key, hv]
      exact fun e he hσ => hinj (List.mem_map_of_mem he) ha hσ
    rw [hb] at hnew
    rw [FieldName.used, FieldName.used, hold.find?_eq_some hf hv, hone.find?_eq_some hf hnew]
    rfl
  · have hno : ∀ a, f.1.spelled a ∉ fields.map Prod.fst := fun a ha => hk ⟨a, ha⟩
    rw [used_eq_none hno, used_eq_none]
    intro a ha
    rw [List.map_map] at ha
    obtain ⟨e, he, hσ⟩ := List.mem_map.1 ha
    obtain ⟨b, hb⟩ := ((hsame e.1).spelled hf).2 ⟨a, hσ⟩
    exact hno b (hb ▸ List.mem_map_of_mem he)

/-- A value under the plain name makes no difference to a field that has its wire name. -/
theorem used_of_overridden (h : Overridden role fields fields') (hf : f ∈ role.fields) :
    f.1.used fields = f.1.used fields' := by
  obtain ⟨g, hg, hwire, rfl⟩ := h
  have hkept : ∀ a, (f = g → a = .wire) →
      lastField? (f.1.spelled a) (fields.filter fun e => e.1 ≠ g.1.plain) =
        lastField? (f.1.spelled a) fields := by
    intro a ha
    apply lastField?_filter_ne
    intro he
    have hfg := field_unique (b := .plain) hf hg he
    rw [hfg, ha hfg] at he
    exact wire_ne_plain hg he
  rw [FieldName.used_eq, FieldName.used_eq, hkept .wire fun _ => rfl]
  by_cases hfg : f = g
  · obtain ⟨v, hv⟩ := exists_lastField? hwire
    rw [hfg, show lastField? (g.1.spelled .wire) fields = some v from hv]
    rfl
  · rw [hkept .plain fun he => absurd he hfg]

/-- Only the field that was changed may be read differently. -/
theorem rel_used_changed {inner : Role} {name : FieldName} {spelling : Spelling}
    {before after : List (String × Json)} {v w : Json} (hn : (name, inner) ∈ role.fields)
    (hvw : inner.SameReading v w) (hf : f ∈ role.fields) :
    Option.Rel f.2.SameReading (f.1.used (before ++ (name.spelled spelling, v) :: after))
      (f.1.used (before ++ (name.spelled spelling, w) :: after)) := by
  have hlast : ∀ a, Option.Rel f.2.SameReading
      (lastField? (f.1.spelled a) (before ++ (name.spelled spelling, v) :: after))
      (lastField? (f.1.spelled a) (before ++ (name.spelled spelling, w) :: after)) := by
    intro a
    rcases lastField?_changed with he | ⟨hk, hv, hw⟩
    · rw [he]
      exact rel_self (fun _ => .refl) _
    · rw [hv, hw, field_unique hf hn hk]
      exact .some hvw
  rw [FieldName.used_eq, FieldName.used_eq]
  exact rel_or (hlast .wire) (hlast .plain)

theorem sameReading_array {items items' : List Json}
    (h : List.Forall₂ Role.signal.SameReading items items') :
    Role.signals.SameReading (.array items) (.array items') := by
  refine ⟨by simp, ?_⟩
  show (Decode.signalList (Decode.levels .document) (.array items)).value? =
    (Decode.signalList (Decode.levels .document) (.array items')).value?
  rw [Decode.signalList_array, Decode.signalList_array, Decode.signalItems_eq_indexed,
    Decode.signalItems_eq_indexed]
  exact Decode.indexed_congr (h.imp fun _ _ hvw => hvw.value)

/-- What does not change the values that are read for the fields of an object changes no reading
of the whole. -/
theorem sameReading_of_rewritten
    {step : Role → List (String × Json) → List (String × Json) → Prop}
    (hstep : ∀ role fields fields', step role fields fields' → ∀ f ∈ role.fields,
      f.1.used fields = f.1.used fields')
    {role : Role} {v w : Json} (h : Rewritten step role v w) : role.SameReading v w := by
  induction h with
  | refl => exact .refl
  | trans _ _ ih ih' => exact ih.trans ih'
  | object hr h =>
    apply SameReading.object hr
    intro f hf
    rw [hstep _ _ _ h f hf]
    exact rel_self (fun _ => .refl) _
  | field hn _ ih => exact .object (List.ne_nil_of_mem hn) fun f hf => rel_used_changed hn ih hf
  | @item before after v w _ ih =>
    have hself : ∀ items : List Json, List.Forall₂ Role.signal.SameReading items items :=
      fun items => List.forall₂_same.2 fun _ _ => .refl
    exact sameReading_array (List.rel_append (hself before) (.cons ih (hself after)))

end Role

namespace StrategyDocument

theorem read_eq_ok_iff_of_rewritten
    {step : Role → List (String × Json) → List (String × Json) → Prop}
    (hstep : ∀ role fields fields', step role fields fields' → ∀ f ∈ role.fields,
      f.1.used fields = f.1.used fields')
    {text text' : String} {v v' : Json} (hv : readJson .strict text = .ok v)
    (hv' : readJson .strict text' = .ok v') (h : Rewritten step .document v v')
    {d : StrategyDocument} : read text = .ok d ↔ read text' = .ok d := by
  have hvalue : (Decode.strategyDocument .document v).value? =
      (Decode.strategyDocument .document v').value? :=
    (Role.sameReading_of_rewritten hstep h).value
  rw [read, read, decodeText_of_readJson hv, decodeText_of_readJson hv',
    Decoded.toExcept_eq_ok_iff, Decoded.toExcept_eq_ok_iff, ← Decoded.value?_eq_some_iff, hvalue,
    Decoded.value?_eq_some_iff]

/-- The two names of a field are the same to a reader, in any of the objects of a document, and
what is read from one under both of them is the value under the wire name. -/
theorem names_interchangeable (text text' : String) (v v' : Json)
    (hv : readJson .strict text = .ok v) (hv' : readJson .strict text' = .ok v') :
    (Rewritten Renamed .document v v' → ∀ d, read text = .ok d ↔ read text' = .ok d) ∧
      (Rewritten Overridden .document v v' → ∀ d, read text = .ok d ↔ read text' = .ok d) := by
  refine ⟨?_, ?_⟩
  · intro h d
    exact read_eq_ok_iff_of_rewritten (fun _ _ _ hr _ hf => Role.used_of_renamed hr hf) hv hv' h
  · intro h d
    exact read_eq_ok_iff_of_rewritten (fun _ _ _ ho _ hf => Role.used_of_overridden ho hf) hv hv' h

/-- Two objects are renamed, and an argument that has the name of a field is not; of two versions
the one under the wire name counts. -/
theorem version_taken_by_wire_name :
    let wire : Json := .object [("Strategy", .object [("ExitSignals", .array [.object
      [("CatalogId", .text "raw.close"), ("Args", .object [("CatalogId", .int 1)])]])])]
    let plain : Json := .object [("strategy", .object [("ExitSignals", .array [.object
      [("catalog_id", .text "raw.close"), ("Args", .object [("CatalogId", .int 1)])]])])]
    let both : Json := .object [("Version", .text "2"), ("version", .int 1)]
    let one : Json := .object [("Version", .text "2")]
    (∃ d, read (wire.write (.document 0)) = .ok d ∧ read (plain.write (.document 0)) = .ok d) ∧
      ∃ d, read (both.write (.document 0)) = .ok d ∧ read (one.write (.document 0)) = .ok d ∧
        d.version = "2" := by
  intro wire plain both one
  have hwire : readJson .strict (wire.write (.document 0)) = .ok wire :=
    readJson_write JsonStyle.readable_document ⟨by decide +kernel, by decide +kernel⟩
  have hplain : readJson .strict (plain.write (.document 0)) = .ok plain :=
    readJson_write JsonStyle.readable_document ⟨by decide +kernel, by decide +kernel⟩
  have hboth : readJson .strict (both.write (.document 0)) = .ok both :=
    readJson_write JsonStyle.readable_document ⟨by decide +kernel, by decide +kernel⟩
  have hone : readJson .strict (one.write (.document 0)) = .ok one :=
    readJson_write JsonStyle.readable_document ⟨by decide +kernel, by decide +kernel⟩
  refine ⟨?_, ?_⟩
  · have hid : Renamed .signal
        [("CatalogId", .text "raw.close"), ("Args", .object [("CatalogId", .int 1)])]
        [("catalog_id", .text "raw.close"), ("Args", .object [("CatalogId", .int 1)])] :=
      Role.renamed_other (f := (SignalField.catalogId, .leaf)) (by decide) (by decide)
    have hstrategy : ∀ v, Renamed .document [("Strategy", v)] [("strategy", v)] := by
      intro v
      refine Role.renamed_other (f := (StrategyField.strategy, .strategy)) (by decide) ?_
      show ∀ f ∈ Role.document.fields, f.1.wire ∈ ["strategy"] → f.1.plain ∉ ["strategy"]
      decide
    have hsignals : Rewritten Renamed .strategy
        (.object [("ExitSignals", .array [.object
          [("CatalogId", .text "raw.close"), ("Args", .object [("CatalogId", .int 1)])]])])
        (.object [("ExitSignals", .array [.object
          [("catalog_id", .text "raw.close"), ("Args", .object [("CatalogId", .int 1)])]])]) :=
      @Rewritten.field _ _ .signals StrategyField.exitSignals .wire [] [] _ _ (by decide)
        (@Rewritten.item _ [] [] _ _ (.object (by decide) hid))
    have hrewritten : Rewritten Renamed .document wire plain :=
      .trans (@Rewritten.field _ _ .strategy StrategyField.strategy .wire [] [] _ _ (by decide)
        hsignals) (.object (by decide) (hstrategy _))
    obtain ⟨d, hd, -⟩ : ∃ d, read (wire.write (.document 0)) = .ok d ∧ true := by
      rw [← any_toOption_iff]
      decide +kernel
    exact ⟨d, hd, ((names_interchangeable _ _ wire plain hwire hplain).1 hrewritten d).1 hd⟩
  · have hrewritten : Rewritten Overridden .document both one :=
      .object (by decide) ⟨(StrategyField.version, .leaf), by decide, by decide, rfl⟩
    obtain ⟨d, hd, hp⟩ : ∃ d, read (one.write (.document 0)) = .ok d ∧ d.version == "2" := by
      rw [← any_toOption_iff]
      decide +kernel
    have hread := (names_interchangeable _ _ both one hboth hone).2 hrewritten d
    exact ⟨d, hread.2 hd, hd, eq_of_beq hp⟩

end StrategyDocument

end TradingSignals

import Mathlib.Data.Option.Basic
import TradingSignals.Proofs.Environment.Nearest
import TradingSignals.Proofs.Environment.PlainLines
import TradingSignals.Proofs.Json.Settled
import TradingSignals.Proofs.Text.Utf8

namespace TradingSignals

/-- Whether the last of the assignments to a name is this one. -/
def LastAssigned (assignments : List Assignment) (name : String) (value : Option String) : Prop :=
  ∃ before after, assignments = before ++ (name, value) :: after ∧ name ∉ after.map Prod.fst

namespace Variables

/-- What the variables are once assignments were added to them: all that was set before, the last
assignment to each name that was not, and no more. -/
structure Loaded (env : Variables) (assignments : List Assignment) (after : Variables) : Prop where
  kept : ∀ name value, env.lookup name = some value → after.lookup name = some value
  added : ∀ name value, env.lookup name = none → LastAssigned assignments name (some value) →
    after.lookup name = some value
  others : ∀ name, env.lookup name = none →
    (∀ value, ¬LastAssigned assignments name (some value)) → after.lookup name = none

variable {env : Variables} {assignments : List Assignment} {name : String}

/-- A name without a value hides no other assignment: each name is there once. -/
theorem lookup_fresh (hs : (assignments.map Prod.fst).Nodup) (hn : env.lookup name = none) :
    (assignments.filterMap fun a =>
      if (env.lookup a.1).isSome then none else a.2.map (a.1, ·)).lookup name =
        (assignments.lookup name).join := by
  induction assignments with
  | nil => rfl
  | cons a assignments ih =>
    obtain ⟨key, value⟩ := a
    obtain ⟨hkey, hrest⟩ := List.nodup_cons.1 hs
    rw [List.filterMap_cons, List.lookup_cons]
    by_cases hk : name = key
    · subst hk
      cases value with
      | some value => simp [hn]
      | none =>
        have hnone : assignments.lookup name = none := by
          rw [lookup_eq_lastField? hrest]
          exact lastField?_eq_none_iff.2 hkey
        simpa [hn, hnone] using ih hrest
    · rw [beq_false_of_ne hk]
      cases (env.lookup key).isSome with
      | true => exact ih hrest
      | false =>
        cases value with
        | none => exact ih hrest
        | some value =>
          simp only [Bool.false_eq_true, if_false, Option.map_some, List.lookup_cons,
            beq_false_of_ne hk]
          exact ih hrest

theorem lookup_load :
    (env.load assignments).lookup name =
      (env.lookup name).or (lastField? name assignments).join := by
  rw [load, List.lookup_append]
  cases hn : env.lookup name with
  | some value => rfl
  | none =>
    have hs : ((lastAssignments assignments).map Prod.fst).Nodup :=
      (foldl_putField_sound assignments [] List.nodup_nil).1
    have hlast : lastField? name (lastAssignments assignments) = lastField? name assignments :=
      (lastField?_foldl_putField assignments []).trans Option.or_none
    rw [lookup_fresh hs hn, lookup_eq_lastField? hs, hlast]

/-- Adding assignments overrides nothing. -/
theorem load_loaded (env : Variables) (assignments : List Assignment) :
    env.Loaded assignments (env.load assignments) where
  kept name value h := by rw [lookup_load, h, Option.some_or]
  added name value h hl := by
    rw [lookup_load, h, lastField?_eq_some_iff.2 hl]
    rfl
  others name h hl := by
    rw [lookup_load, h, Option.none_or, Option.eq_none_iff_forall_ne_some]
    intro value hv
    exact hl value (lastField?_eq_some_iff.1 (Option.join_eq_some_iff.1 hv))

end Variables

namespace FileTree

variable {tree : FileTree} {start home d q : FilePlace}

/-- The file to load: the nearest one, and that of the program's own directory only where there is
none. -/
def Chosen (tree : FileTree) (start home q : FilePlace) : Prop :=
  ∃ d, q = d ++ [".env"] ∧
    (tree.Nearest start d ∨ (∀ e, e <+: start → ¬tree.HoldsEnvFile e) ∧ tree.Nearest home d)

theorem envFile_eq_some_iff : tree.envFile start home = some q ↔ tree.Chosen start home q := by
  rw [envFile, Option.orElse_eq_some, nearestEnvFile_eq_some_iff, nearestEnvFile_eq_some_iff,
    nearestEnvFile_eq_none_iff]
  constructor
  · rintro (⟨d, hd, hq⟩ | ⟨hn, d, hd, hq⟩)
    · exact ⟨d, hq, Or.inl hd⟩
    · exact ⟨d, hq, Or.inr ⟨hn, hd⟩⟩
  · rintro ⟨d, hq, hd | ⟨hn, hd⟩⟩
    · exact Or.inl ⟨d, hd, hq⟩
    · exact Or.inr ⟨hn, d, hd, hq⟩

/-- A chosen file is there. -/
theorem Chosen.lookup (h : tree.Chosen start home q) :
    ∃ content, tree.files.lookup q = some content := by
  obtain ⟨d, rfl, hd⟩ := h
  have hholds : tree.HoldsEnvFile d := hd.elim Nearest.holds fun hd => hd.2.holds
  obtain ⟨content, hc⟩ := hholds
  exact ⟨content, state_eq_file_iff.1 hc⟩

/-- From any place that a path may be resolved to, the nearest file of variables is found and
loaded, without a change to any variable that is set. -/
theorem loadEnvironment_nearest (tree : FileTree) (start home : FilePlace) (env : Variables) :
    (∀ q, tree.nearestEnvFile start = some q ↔ ∃ d, tree.Nearest start d ∧ q = d ++ [".env"]) ∧
    (tree.nearestEnvFile start = none ↔ ∀ d, d <+: start → ¬tree.HoldsEnvFile d) ∧
    (∀ q, tree.Chosen start home q → ∃ content, tree.state q = .file content ∧
      match decodeUtf8 content with
      | .error fault => tree.loadEnvironment start home env = .error fault
      | .ok s => ∃ after, tree.loadEnvironment start home env = .ok (some q, after) ∧
        env.Loaded (env.fill (EnvFile.read s)) after ∧
        ∀ pairs, EnvFile.PlainLines pairs s →
          env.Loaded (pairs.map fun a => (a.1, some a.2)) after) ∧
    ((∀ q, ¬tree.Chosen start home q) → tree.loadEnvironment start home env = .ok (none, env)) := by
  refine ⟨fun q => nearestEnvFile_eq_some_iff, nearestEnvFile_eq_none_iff, ?_, ?_⟩
  · intro q hq
    obtain ⟨content, hc⟩ := hq.lookup
    refine ⟨content, state_eq_file_iff.2 hc, ?_⟩
    rw [loadEnvironment, envFile_eq_some_iff.2 hq]
    dsimp only
    rw [assignmentsIn, hc]
    cases hd : decodeUtf8 content with
    | error fault => simp [hd, Functor.map, Except.map]
    | ok s =>
      refine ⟨env.load (env.fill (EnvFile.read s)), by simp [hd, Functor.map, Except.map],
        Variables.load_loaded env _, ?_⟩
      intro pairs hp
      have hfill : env.fill (EnvFile.read s) = pairs.map fun a => (a.1, some a.2) := by
        rw [EnvFile.read_plainLines hp]
        exact Variables.fill_plain env fun a ha => (hp.plain a ha).2
      rw [hfill]
      exact Variables.load_loaded env _
  · intro hnone
    have hn : tree.envFile start home = none :=
      Option.eq_none_iff_forall_ne_some.2 fun q hq => hnone q (envFile_eq_some_iff.1 hq)
    rw [loadEnvironment, hn]

/-- A directory that has the name of a file of variables, below two such files. -/
def nested : FileTree where
  files :=
    [(["work", ".env"], utf8Bytes "KEY=a\nMODEL=b\nMODEL=c\n"), ([".env"], utf8Bytes "URL=d")]
  dirs := [["work", "deep", ".env"]]

/-- The place need not be there. -/
theorem nested_variables_loaded :
    nested.nearestEnvFile (resolvePath [] "work/gone/../deep/x") = some ["work", ".env"] ∧
      ∃ after, nested.loadEnvironment (resolvePath [] "work/gone/../deep/x") ["package"]
          [("KEY", "")] = .ok (some ["work", ".env"], after) ∧
        after.lookup "KEY" = some "" ∧ after.lookup "MODEL" = some "c" ∧
        after.lookup "URL" = none := by
  obtain ⟨hfound, -, hload, -⟩ :=
    loadEnvironment_nearest nested (resolvePath [] "work/gone/../deep/x") ["package"] [("KEY", "")]
  have hq : nested.nearestEnvFile (resolvePath [] "work/gone/../deep/x") =
      some ["work", ".env"] := by decide
  obtain ⟨d, hd, hdq⟩ := (hfound _).1 hq
  obtain ⟨content, hc, h⟩ := hload _ ⟨d, hdq, Or.inl hd⟩
  obtain rfl : utf8Bytes "KEY=a\nMODEL=b\nMODEL=c\n" = content := FileState.file.inj hc
  rw [decodeUtf8_utf8Bytes] at h
  obtain ⟨after, hafter, -, hplain⟩ := h
  have hlines : EnvFile.PlainLines [("KEY", "a"), ("MODEL", "b"), ("MODEL", "c")]
      "KEY=a\nMODEL=b\nMODEL=c\n" := ⟨by decide, "\n", Or.inr rfl, by decide⟩
  have hloaded := hplain _ hlines
  refine ⟨hq, after, hafter, ?_, ?_, ?_⟩
  · exact hloaded.kept "KEY" "" rfl
  · exact hloaded.added "MODEL" "c" rfl
      ⟨[("KEY", some "a"), ("MODEL", some "b")], [], rfl, List.not_mem_nil⟩
  · apply hloaded.others "URL" rfl
    rintro value ⟨before, rest, hmem, -⟩
    have hm : ("URL", some value) ∈ before ++ ("URL", some value) :: rest :=
      List.mem_append_right before List.mem_cons_self
    rw [← hmem] at hm
    simp at hm

end FileTree

end TradingSignals

import Mathlib.Data.Prod.Lex
import Mathlib.Data.String.Basic
import TradingSignals.Proofs.Catalog.Resolution
import TradingSignals.Proofs.Drafting.Prompt

namespace TradingSignals

namespace Capability

/-- What capabilities are sorted by: the category and then the name. -/
def sortKey (c : Capability) : String ×ₗ String := toLex (c.category, c.name)

theorem comesBefore_iff {a b : Capability} : a.comesBefore b ↔ a.sortKey ≤ b.sortKey := by
  simp only [comesBefore, sortKey, Prod.Lex.toLex_le_toLex, Bool.or_eq_true, Bool.and_eq_true,
    decide_eq_true_eq, beq_iff_eq, Bool.not_eq_true', decide_eq_false_iff_not, not_lt]

end Capability

/-- A strictly sorted list is the only one of its members. -/
theorem eq_of_perm_of_sorted {cs cs' : List Capability} (h : cs.Perm cs')
    (hs : cs.Pairwise (·.sortKey < ·.sortKey)) (hs' : cs'.Pairwise (·.sortKey < ·.sortKey)) :
    cs = cs' :=
  List.Perm.eq_of_pairwise (fun _ _ _ _ hab hba => absurd hba hab.asymm) hs hs' h

/-- What a message says, and in which role. -/
structure Json.IsMessage (message : Json) (role content : String) : Prop where
  role : message.field? "role" = some (.text role)
  content : message.field? "content" = some (.text content)

/-- The messages of a request are the task and the description. -/
theorem chatRequest_messages {catalog : Catalog} {model description : String} :
    ∃ system user : Json,
      (chatRequest catalog model description).field? "model" = some (.text model) ∧
      (chatRequest catalog model description).field? "messages" = some (.array [system, user]) ∧
      system.IsMessage "system" (systemPrompt catalog.registryText) ∧
      user.IsMessage "user" description :=
  ⟨_, _, rfl, rfl, ⟨rfl, rfl⟩, ⟨rfl, rfl⟩⟩

namespace Catalog

/-- The capabilities in the order of the registry text. -/
def sorted (catalog : Catalog) : List Capability :=
  catalog.toList.mergeSort Capability.comesBefore

variable {catalog : Catalog} {cs cs' : List Capability}

theorem sorted_perm : catalog.sorted.Perm catalog.toList := List.mergeSort_perm _ _

/-- Different keys are sorted strictly. -/
theorem sorted_strictly (h : (catalog.toList.map Capability.sortKey).Nodup) :
    catalog.sorted.Pairwise (·.sortKey < ·.sortKey) := by
  have htrans : ∀ a b c : Capability, a.comesBefore b → b.comesBefore c → a.comesBefore c := by
    intro a b c hab hbc
    rw [Capability.comesBefore_iff] at hab hbc ⊢
    exact hab.trans hbc
  have htotal : ∀ a b : Capability, a.comesBefore b || b.comesBefore a := by
    intro a b
    rw [Bool.or_eq_true, Capability.comesBefore_iff, Capability.comesBefore_iff]
    exact le_total _ _
  have hle := List.pairwise_mergeSort htrans htotal catalog.toList
  have hne : catalog.sorted.Pairwise (·.sortKey ≠ ·.sortKey) :=
    List.pairwise_map.1 ((sorted_perm.map Capability.sortKey).nodup_iff.2 h)
  refine (List.pairwise_and_iff.2 ⟨hle, hne⟩).imp ?_
  rintro a b ⟨hab, hne⟩
  exact lt_of_le_of_ne (Capability.comesBefore_iff.1 hab) hne

/-- Capabilities with different ids stay as they are registered. -/
theorem byId_of_nodup (h : (cs.map Capability.lowerId).Nodup) :
    (ofList cs).byId = cs.map fun c => (c.lowerId, c) := by
  induction cs using List.reverseRecOn with
  | nil => rfl
  | append_singleton cs c ih =>
    rw [List.map_append, List.nodup_append] at h
    have hnew : c.lowerId ∉ (ofList cs).byId.map Prod.fst := by
      rw [ids_ofList, List.mem_eraseDups]
      exact fun hm => h.2.2 _ hm _ List.mem_cons_self rfl
    rw [ofList_concat, List.map_append, ← ih h.1]
    exact putField_of_not_mem hnew

theorem toList_of_nodup (h : (cs.map Capability.lowerId).Nodup) : (ofList cs).toList = cs := by
  rw [toList, byId_of_nodup h, List.map_map]
  exact List.map_id' cs

/-- One line for each capability, strictly by category and name. -/
theorem registryText_eq : catalog.registryText =
    String.intercalate "\n" (catalog.sorted.map Capability.registryLine) := rfl

/-- The registry text is the same in whatever order capabilities are registered, if no two of them
share an id or both a category and a name: the line of each of them once, strictly by category and
name. So are the message and the request that hold it, and it stands as it is in what the first
message says. -/
theorem registration_order_irrelevant (h : cs.Perm cs')
    (hid : (cs.map Capability.lowerId).Nodup) (hkey : (cs.map Capability.sortKey).Nodup) :
    (∃ sorted : List Capability, sorted.Perm (ofList cs).toList ∧ sorted.Perm cs ∧
      sorted.Pairwise (·.sortKey < ·.sortKey) ∧
      (ofList cs).registryText = String.intercalate "\n" (sorted.map fun c =>
        "- " ++ c.name ++ " (ID: " ++ c.id ++ ") - " ++ c.description)) ∧
    (ofList cs).registryText = (ofList cs').registryText ∧
    systemPrompt (ofList cs).registryText = systemPrompt (ofList cs').registryText ∧
    (∀ model description,
      chatRequest (ofList cs) model description = chatRequest (ofList cs') model description) ∧
    ∃ before after : String, (∀ registry, systemPrompt registry = before ++ registry ++ after) ∧
      ∀ model description, ∃ system user : Json,
        (chatRequest (ofList cs) model description).field? "model" = some (.text model) ∧
        (chatRequest (ofList cs) model description).field? "messages" =
          some (.array [system, user]) ∧
        system.IsMessage "system" (before ++ (ofList cs).registryText ++ after) ∧
        user.IsMessage "user" description := by
  have hlist := toList_of_nodup hid
  have hlist' := toList_of_nodup ((h.map Capability.lowerId).nodup_iff.1 hid)
  have hstrict : (ofList cs).sorted.Pairwise (·.sortKey < ·.sortKey) :=
    sorted_strictly (by rw [hlist]; exact hkey)
  have hstrict' : (ofList cs').sorted.Pairwise (·.sortKey < ·.sortKey) :=
    sorted_strictly (by rw [hlist']; exact (h.map Capability.sortKey).nodup_iff.1 hkey)
  have hperm : (ofList cs).sorted.Perm (ofList cs).toList := sorted_perm
  have hperm' : (ofList cs').sorted.Perm (ofList cs').toList := sorted_perm
  rw [hlist] at hperm
  rw [hlist'] at hperm'
  have htext : (ofList cs).registryText = (ofList cs').registryText := by
    rw [registryText_eq, registryText_eq,
      eq_of_perm_of_sorted (hperm.trans (h.trans hperm'.symm)) hstrict hstrict']
  refine ⟨⟨_, sorted_perm, hperm, hstrict, registryText_eq⟩, htext, by rw [htext], ?_, ?_⟩
  · intro model description
    rw [chatRequest, chatRequest, htext]
  · obtain ⟨before, after, hprompt⟩ := systemPrompt_eq
    refine ⟨before, after, hprompt, fun model description => ?_⟩
    rw [← hprompt]
    exact chatRequest_messages

/-- Two signals in both orders. The name of a field of the template is text in a description. -/
theorem field_name_in_description_kept :
    let sma : Capability :=
      { id := "sma", name := "SMA", category := "Trend", description := "Mean, \x7bversion\x7d",
        signalType := "SignalValueTrend" }
    let close : Capability :=
      { id := "raw.close", name := "Close", category := "Raw", description := "Last \x7b\x7b",
        signalType := "SignalValueRAW" }
    let text := "- Close (ID: raw.close) - Last \x7b\x7b\n- SMA (ID: sma) - Mean, \x7bversion\x7d"
    (ofList [sma, close]).registryText = text ∧ (ofList [close, sma]).registryText = text ∧
      ∃ (before after : String) (system user : Json),
        (chatRequest (ofList [close, sma]) "m" "buy low").field? "messages" =
          some (.array [system, user]) ∧
        system.IsMessage "system" (before ++ text ++ after) ∧ user.IsMessage "user" "buy low" := by
  intro sma close text
  obtain ⟨⟨sorted, -, hperm, hstrict, htext⟩, hsame, -, hrequest, before, after, -, hmessages⟩ :=
    registration_order_irrelevant (List.Perm.swap close sma []) (by decide +kernel)
      (by decide +kernel)
  have hlt : close.sortKey < sma.sortKey := Prod.Lex.toLex_lt_toLex.2 (Or.inl (by decide))
  have hsorted : sorted = [close, sma] :=
    eq_of_perm_of_sorted (hperm.trans (List.Perm.swap close sma []))
      hstrict (List.pairwise_pair.2 hlt)
  have hlines : String.intercalate "\n" ([close, sma].map fun c =>
      "- " ++ c.name ++ " (ID: " ++ c.id ++ ") - " ++ c.description) = text := by
    decide +kernel
  rw [hsorted, hlines] at htext
  have htext' := hsame.symm.trans htext
  obtain ⟨system, user, -, hlist, hsystem, huser⟩ := hmessages "m" "buy low"
  rw [htext] at hsystem
  rw [hrequest] at hlist
  exact ⟨htext, htext', before, after, system, user, hlist, hsystem, huser⟩

end Catalog

end TradingSignals

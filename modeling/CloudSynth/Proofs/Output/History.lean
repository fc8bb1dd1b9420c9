import Mathlib.Data.List.Induction
import CloudSynth.Proofs.Backend.Stacks
import CloudSynth.Proofs.Json.TextGrammar

/-!
# Outputs after any calls

Values are appended to a list by reading the written list, extending it and writing it again, and a
text that is no list is taken for the empty one. So no value gets lost because what was written is
read back, whatever the characters.

One call extends every list of its key by the value it has for the field, or replaces the entry
(`list_perform`), and does not touch other keys (`find?_perform_of_ne`). By induction on the calls,
from the last one, a list is what was written in the field when the entry was last stored, and then
all values appended since (`recorded_performAll`).
-/

namespace CloudSynth.OutputStorage

/-! ## Calls -/

/-- A call that stores an entry, or appends the values of one. -/
inductive Call
  | store (key : String) (entry : OutputEntry)
  | append (key : String) (entry : OutputEntry)

namespace Call

/-- The key the call is about. -/
def key : Call → String
  | store key _ | append key _ => key

/-- The entry the call brings. -/
def entry : Call → OutputEntry
  | store _ entry | append _ entry => entry

/-- The call stores an entry under the key. -/
def Stores (key : String) (call : Call) : Prop := ∃ entry, call = store key entry

/-- The value the call appends to the list in a field of a key. -/
def appended? (key field : String) : Call → Option String
  | store _ _ => none
  | append other entry => if other = key then entry.payload.find? field else none

end Call

/-- The storage after one call. -/
def perform (storage : OutputStorage) : Call → OutputStorage
  | .store key entry => storage.store key entry
  | .append key entry => storage.append key entry

/-- The storage after some calls, from the empty one. -/
def performAll (calls : List Call) : OutputStorage := calls.foldl perform empty

/-- The last entry that was stored under a key, if there was any, and the calls after that. -/
inductive Since (key : String) : List Call → Option OutputEntry → List Call → Prop
  | never {calls : List Call} (none_stores : ∀ call ∈ calls, ¬ call.Stores key) :
      Since key calls none calls
  | stored {before later : List Call} {entry : OutputEntry}
      (none_stores : ∀ call ∈ later, ¬ call.Stores key) :
      Since key (before ++ .store key entry :: later) (some entry) later

/-- The texts that are written in a field when an entry is stored. -/
inductive Written (field : String) : Option OutputEntry → List String → Prop
  | list {entry : OutputEntry} {written : String} {values : List String}
      (found : entry.payload.find? field = some written)
      (writes : Json.WritesList written.toList values) : Written field (some entry) values
  | noList {entry : OutputEntry} {written : String}
      (found : entry.payload.find? field = some written)
      (refused : ∀ values, ¬ Json.WritesList written.toList values) : Written field (some entry) []
  | noField {entry : OutputEntry} (absent : entry.payload.find? field = none) :
      Written field (some entry) []
  | noEntry : Written field none []

/-! ## One call -/

variable {storage other : OutputStorage} {call : Call} {calls : List Call} {key field : String}

theorem find?_perform_of_ne (different : call.key ≠ key) :
    (storage.perform call).find? key = storage.find? key := by
  cases call with
  | store => exact (find?_store _ _ _ _).trans (if_neg different)
  | append => exact find?_append_of_ne _ _ _ _ different

/-- What a call makes of a key depends on nothing else than what was there. -/
theorem find?_perform_congr (same : storage.find? key = other.find? key) :
    (storage.perform call).find? key = (other.perform call).find? key := by
  by_cases here : call.key = key
  · subst here
    cases call with
    | store => simp [perform, Call.key, find?_store]
    | append =>
        simp only [Call.key] at same
        simp only [perform, Call.key, append, find?_store, same]
  · rw [find?_perform_of_ne here, find?_perform_of_ne here, same]

theorem version_perform (here : call.key = key) :
    ((storage.perform call).find? key).map (·.version) = some call.entry.version := by
  subst here
  cases call <;> simp [perform, append, Call.key, Call.entry, find?_store]

/-- The lists that a stored entry starts are those that are written in its fields. -/
theorem written_store (key field : String) (entry : OutputEntry) :
    Written field (some entry) ((storage.store key entry).list key field) := by
  simp only [list, find?_store, if_true, listIn]
  cases found : entry.payload.find? field with
  | none => exact .noField found
  | some written =>
      show Written field (some entry) (Json.decodeTexts written)
      by_cases refused : ∀ values, ¬ Json.WritesList written.toList values
      · rw [Json.decodeTexts_of_not_writesList refused]
        exact .noList found refused
      · rcases not_forall_not.mp refused with ⟨values, writes⟩
        rw [Json.decodeTexts_of_writesList writes]
        exact .list found writes

/-- A call that does not replace the entry extends the lists, by the values it has for them. -/
theorem list_perform (no_store : ¬ call.Stores key) (field : String) :
    (storage.perform call).list key field =
      storage.list key field ++ (call.appended? key field).toList := by
  by_cases here : call.key = key
  · subst here
    cases call with
    | store key entry => exact absurd ⟨entry, rfl⟩ no_store
    | append key entry => simp [perform, Call.key, Call.appended?, list_append]
  · have nothing : call.appended? key field = none := by
      cases call with
      | store => rfl
      | append => exact if_neg here
    rw [nothing, list, find?_perform_of_ne here, list, Option.toList_none, List.append_nil]

/-! ## All calls -/

theorem performAll_concat (calls : List Call) (call : Call) :
    performAll (calls ++ [call]) = (performAll calls).perform call := List.foldl_concat ..

theorem Since.concat {stored : Option OutputEntry} {later : List Call}
    (since : Since key calls stored later) (no_store : ¬ call.Stores key) :
    Since key (calls ++ [call]) stored (later ++ [call]) := by
  have no_later : ∀ {calls : List Call}, (∀ other ∈ calls, ¬ other.Stores key) →
      ∀ other ∈ calls ++ [call], ¬ other.Stores key := by
    intro calls none_stores
    rw [List.forall_mem_append]
    exact ⟨none_stores, List.forall_mem_singleton.mpr no_store⟩
  cases since with
  | never none_stores => exact .never (no_later none_stores)
  | stored none_stores =>
      rw [List.append_assoc, List.cons_append]
      exact .stored (no_later none_stores)

/-- What stands under a key after some calls on the empty storage. -/
structure Recorded (calls : List Call) (key : String) (storage : OutputStorage) : Prop where
  /-- A list is what was written in its field when the entry was last stored, and then all values
  that were appended since, in order. -/
  lists : ∃ stored later, Since key calls stored later ∧ ∀ field, ∃ start,
    Written field stored start ∧
      storage.list key field = start ++ later.filterMap (·.appended? key field)
  /-- The entry has the version of the last call on its key. -/
  version : (storage.find? key).map (·.version) =
    (calls.filter (·.key = key)).getLast?.map (·.entry.version)
  /-- Calls on other keys count for nothing, neither before nor after. -/
  apart : storage.find? key = (performAll (calls.filter (·.key = key))).find? key
  unaffected : ∀ call : Call, call.key ≠ key →
    (storage.perform call).find? key = storage.find? key

theorem lists_performAll (calls : List Call) (key : String) :
    ∃ stored later, Since key calls stored later ∧ ∀ field, ∃ start, Written field stored start ∧
      (performAll calls).list key field =
        start ++ later.filterMap (·.appended? key field) := by
  induction calls using List.reverseRecOn with
  | nil => exact ⟨none, [], .never nofun, fun _ => ⟨[], .noEntry, rfl⟩⟩
  | append_singleton calls call ih =>
      rw [performAll_concat]
      by_cases stores : call.Stores key
      · rcases stores with ⟨entry, rfl⟩
        exact ⟨some entry, [], .stored nofun, fun field =>
          ⟨_, written_store key field entry, (List.append_nil _).symm⟩⟩
      · rcases ih with ⟨stored, later, since, lists⟩
        refine ⟨stored, later ++ [call], since.concat stores, fun field => ?_⟩
        rcases lists field with ⟨start, written, listed⟩
        refine ⟨start, written, ?_⟩
        rw [list_perform stores, listed, List.filterMap_append, List.append_assoc]
        cases appended : call.appended? key field <;> simp [appended]

theorem version_performAll (calls : List Call) (key : String) :
    ((performAll calls).find? key).map (·.version) =
      (calls.filter (·.key = key)).getLast?.map (·.entry.version) := by
  induction calls using List.reverseRecOn with
  | nil => rfl
  | append_singleton calls call ih =>
      rw [performAll_concat, List.filter_append]
      by_cases here : call.key = key
      · rw [version_perform here]
        simp [here]
      · rw [find?_perform_of_ne here, ih]
        simp [here]

theorem find?_performAll_filter (calls : List Call) (key : String) :
    (performAll calls).find? key = (performAll (calls.filter (·.key = key))).find? key := by
  induction calls using List.reverseRecOn with
  | nil => rfl
  | append_singleton calls call ih =>
      rw [performAll_concat, List.filter_append]
      by_cases here : call.key = key
      · rw [List.filter_singleton, decide_eq_true here, cond_true, performAll_concat]
        exact find?_perform_congr ih
      · rw [List.filter_singleton, decide_eq_false here, cond_false, List.append_nil,
          find?_perform_of_ne here, ih]

theorem recorded_performAll (calls : List Call) (key : String) :
    Recorded calls key (performAll calls) where
  lists := lists_performAll calls key
  version := version_performAll calls key
  apart := find?_performAll_filter calls key
  unaffected := fun _ => find?_perform_of_ne

end CloudSynth.OutputStorage

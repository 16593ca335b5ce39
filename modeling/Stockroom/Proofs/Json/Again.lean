import Stockroom.Proofs.Json.Regular

/-!
# Values that are read again

A regular value is written with its keys in ascending order, and that is how the reader
finds it.  It is found again unless it is nested too deep or an object begins with the
key that is reserved for embedded texts: the object then has further keys, and what
follows an embedded text is refused.
-/

namespace Stockroom.Json

namespace Document

variable {embedded : String → Option Json}

theorem embeddedText?_memberDocuments {members : List (String × Json)}
    (hlead : leadsReserved members = true)
    (halone : ∀ value, members ≠ [(embeddingKey, value)]) :
    embeddedText? (memberDocuments members) = none := by
  match members with
  | [(key, value)] =>
      have reserved : key = embeddingKey := by simpa [leadsReserved] using hlead
      exact absurd (by rw [reserved]) (halone value)
  | (_, _) :: (_, _) :: rest => simp [memberDocuments, embeddedText?]

theorem isEmbedding_memberDocuments (members : List (String × Json)) :
    isEmbedding (memberDocuments members) = leadsReserved members := by
  cases members with
  | nil => rfl
  | cons member members => simp [memberDocuments, isEmbedding, leadsReserved]

theorem itemsFit_cons {item : Json} {items : List Json} {limit : Nat} :
    (itemsDepth (item :: items) ≤ limit ∧ itemsPlain (item :: items) = true) ↔
      (depth item ≤ limit ∧ isPlain item = true) ∧
        (itemsDepth items ≤ limit ∧ itemsPlain items = true) := by
  simp only [itemsDepth, itemsPlain, Nat.max_le, Bool.and_eq_true]
  exact and_and_and_comm

theorem membersFit_cons {key : String} {value : Json} {members : List (String × Json)}
    {limit : Nat} :
    (membersDepth ((key, value) :: members) ≤ limit ∧
        membersPlain ((key, value) :: members) = true) ↔
      (depth value ≤ limit ∧ isPlain value = true) ∧
        (membersDepth members ≤ limit ∧ membersPlain members = true) := by
  simp only [membersDepth, membersPlain, Nat.max_le, Bool.and_eq_true]
  exact and_and_and_comm

mutual

/-- Of a regular value exactly those are read again that are not too deep and plain. -/
theorem jsonWith?_document {value : Json} (h : value.Regular) (limit : Nat) :
    (document value).jsonWith? embedded limit =
      if value.depth ≤ limit ∧ value.isPlain = true then some value else none := by
  match value with
  | .null => simp [document, jsonWith?, depth, isPlain]
  | .bool b => simp [document, jsonWith?, depth, isPlain]
  | .int n => simp [document, jsonWith?, depth, isPlain]
  | .float x => simp [document, jsonWith?, depth, isPlain]
  | .text s => simp [document, jsonWith?, depth, isPlain]
  | .array items =>
      cases limit with
      | zero => simp [document, jsonWith?, depth]
      | succ inner =>
          rw [document, jsonWith?, items?_documents h inner]
          by_cases readable : itemsDepth items ≤ inner ∧ itemsPlain items = true <;>
            simp [depth, isPlain, readable]
  | .object members =>
      cases limit with
      | zero => simp [document, jsonWith?, depth]
      | succ inner =>
          obtain ⟨ascending, alone, regular⟩ := h
          rw [document, jsonWith?, isEmbedding_memberDocuments]
          by_cases lead : leadsReserved members = true
          · simp [isPlain, lead, embeddedText?_memberDocuments lead alone]
          · rw [if_neg lead, members?_memberDocuments regular (by simpa using ascending) inner]
            by_cases readable : membersDepth members ≤ inner ∧ membersPlain members = true <;>
              simp [depth, isPlain, lead, readable]

theorem items?_documents {items : List Json} (h : Json.ItemsRegular items) (limit : Nat) :
    items? embedded limit (documents items) =
      if itemsDepth items ≤ limit ∧ itemsPlain items = true then some items else none := by
  match items with
  | [] => simp [documents, items?, itemsDepth, itemsPlain]
  | item :: items =>
      rw [documents, items?, jsonWith?_document h.1, items?_documents h.2]
      rw [if_congr itemsFit_cons rfl rfl]
      by_cases first : depth item ≤ limit ∧ isPlain item = true
      · by_cases others : itemsDepth items ≤ limit ∧ itemsPlain items = true <;>
          simp [first, others]
      · rw [if_neg first]
        exact (if_neg fun whole => first whole.1).symm

theorem members?_memberDocuments {members : List (String × Json)} (h : Json.MembersRegular members)
    {sorted : List (String × Json)} (ascending : Ascending (sorted ++ members)) (limit : Nat) :
    members? embedded limit sorted (memberDocuments members) =
      if membersDepth members ≤ limit ∧ membersPlain members = true then some (sorted ++ members)
      else none := by
  match members with
  | [] => simp [memberDocuments, members?, membersDepth, membersPlain]
  | (key, value) :: members =>
      have last : ∀ member ∈ sorted, member.1 < key := fun member inside =>
        (List.pairwise_append.mp ascending).2.2 member inside (key, value) List.mem_cons_self
      have further : Ascending ((sorted ++ [(key, value)]) ++ members) := by
        simpa using ascending
      rw [memberDocuments, members?, jsonWith?_document h.1, if_congr membersFit_cons rfl rfl]
      by_cases first : depth value ≤ limit ∧ isPlain value = true
      · rw [if_pos first, Option.bind_eq_bind, Option.bind_eq_bind, Option.bind_some,
          Option.bind_some, insertMember_of_forall_lt last, members?_memberDocuments h.2 further]
        by_cases others : membersDepth members ≤ limit ∧ membersPlain members = true <;>
          simp [first, others]
      · rw [if_neg first]
        exact (if_neg fun whole => first whole.1).symm

end

end Document

end Stockroom.Json

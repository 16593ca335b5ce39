import Stockroom.Proofs.Json.Written

/-!
# The shape of values

A regular value has whole numbers of 64 bits only, the keys of an object ascend in it,
and the key that is reserved for embedded texts is never the only one.  Without
doubles it is written exactly.
-/

namespace Stockroom.Json

/-! ## Properties of values -/

mutual

/-- How deep arrays and objects are nested. -/
def depth : Json → Nat
  | .array items => itemsDepth items + 1
  | .object members => membersDepth members + 1
  | _ => 0

def itemsDepth : List Json → Nat
  | [] => 0
  | item :: items => max (depth item) (itemsDepth items)

def membersDepth : List (String × Json) → Nat
  | [] => 0
  | (_, value) :: members => max (depth value) (membersDepth members)

end

/-- The first key is the one that is reserved for embedded texts. -/
def leadsReserved : List (String × Json) → Bool
  | (key, _) :: _ => key == Document.embeddingKey
  | [] => false

mutual

/-- No object begins with the reserved key. -/
def isPlain : Json → Bool
  | .array items => itemsPlain items
  | .object members => !leadsReserved members && membersPlain members
  | _ => true

def itemsPlain : List Json → Bool
  | [] => true
  | item :: items => isPlain item && itemsPlain items

def membersPlain : List (String × Json) → Bool
  | [] => true
  | (_, value) :: members => isPlain value && membersPlain members

end

/-- The keys ascend, so that each occurs once. -/
def Ascending (members : List (String × Json)) : Prop :=
  members.Pairwise fun a b => a.1 < b.1

mutual

def Regular : Json → Prop
  | .int n => -2 ^ 63 ≤ n ∧ n < 2 ^ 64
  | .array items => ItemsRegular items
  | .object members =>
      Ascending members ∧ (∀ value, members ≠ [(Document.embeddingKey, value)]) ∧
        MembersRegular members
  | _ => True

def ItemsRegular : List Json → Prop
  | [] => True
  | item :: items => Regular item ∧ ItemsRegular items

def MembersRegular : List (String × Json) → Prop
  | [] => True
  | (_, value) :: members => Regular value ∧ MembersRegular members

end

theorem itemsDepth_le_iff {items : List Json} {limit : Nat} :
    itemsDepth items ≤ limit ↔ ∀ item ∈ items, item.depth ≤ limit := by
  induction items with
  | nil => simp [itemsDepth]
  | cons item items ih => simp [itemsDepth, ih]

theorem membersDepth_le_iff {members : List (String × Json)} {limit : Nat} :
    membersDepth members ≤ limit ↔ ∀ member ∈ members, member.2.depth ≤ limit := by
  induction members with
  | nil => simp [membersDepth]
  | cons member members ih => simp [membersDepth, ih]

theorem itemsPlain_iff {items : List Json} :
    itemsPlain items = true ↔ ∀ item ∈ items, item.isPlain = true := by
  induction items with
  | nil => simp [itemsPlain]
  | cons item items ih => simp [itemsPlain, ih]

theorem membersPlain_iff {members : List (String × Json)} :
    membersPlain members = true ↔ ∀ member ∈ members, member.2.isPlain = true := by
  induction members with
  | nil => simp [membersPlain]
  | cons member members ih => simp [membersPlain, ih]

theorem itemsRegular_iff {items : List Json} :
    ItemsRegular items ↔ ∀ item ∈ items, item.Regular := by
  induction items with
  | nil => simp [ItemsRegular]
  | cons item items ih => simp [ItemsRegular, ih]

theorem membersRegular_iff {members : List (String × Json)} :
    MembersRegular members ↔ ∀ member ∈ members, member.2.Regular := by
  induction members with
  | nil => simp [MembersRegular]
  | cons member members ih => simp [MembersRegular, ih]

/-! ## Members in their place -/

theorem mem_insertMember {key : String} {value : Json} {members : List (String × Json)}
    {member : String × Json} (h : member ∈ insertMember key value members) :
    member = (key, value) ∨ member ∈ members := by
  induction members with
  | nil => simpa [insertMember] using h
  | cons other members ih =>
      unfold insertMember at h
      split at h
      · simpa using h
      split at h
      · rcases List.mem_cons.mp h with rfl | rest
        · exact .inl rfl
        · exact .inr (List.mem_cons_of_mem _ rest)
      · rcases List.mem_cons.mp h with rfl | rest
        · exact .inr List.mem_cons_self
        · exact (ih rest).imp_right (List.mem_cons_of_mem _)

/-- The key is there, and no other is lost. -/
theorem mem_keys_insertMember {key other : String} {value : Json}
    {members : List (String × Json)} (h : other = key ∨ other ∈ members.map Prod.fst) :
    other ∈ (insertMember key value members).map Prod.fst := by
  induction members with
  | nil => simpa [insertMember] using h
  | cons member members ih =>
      unfold insertMember
      split
      · simpa using h
      split
      next same => simpa [← same] using h
      next =>
        rw [List.map_cons, List.mem_cons]
        by_cases first : other = member.1
        · exact .inl first
        · exact .inr (ih (h.imp_right fun inside => by simpa [first] using inside))

theorem ascending_insertMember {members : List (String × Json)} (h : Ascending members)
    (key : String) (value : Json) : Ascending (insertMember key value members) := by
  induction members with
  | nil => exact List.pairwise_singleton _ _
  | cons other members ih =>
      obtain ⟨behind, rest⟩ := List.pairwise_cons.mp h
      unfold insertMember
      split
      next before =>
        apply List.pairwise_cons.mpr
        refine ⟨fun member inside => ?_, h⟩
        rcases List.mem_cons.mp inside with rfl | further
        · exact before
        · exact String.lt_trans before (behind member further)
      split
      next same => exact List.pairwise_cons.mpr ⟨same ▸ behind, rest⟩
      next after differs =>
        apply List.pairwise_cons.mpr
        refine ⟨fun member inside => ?_, ih rest⟩
        rcases mem_insertMember inside with rfl | further
        · exact ((Std.lt_trichotomy key other.1).resolve_left after).resolve_left differs
        · exact behind member further

/-- A key beyond all others is put at the end. -/
theorem insertMember_of_forall_lt {key : String} {value : Json} {members : List (String × Json)}
    (h : ∀ member ∈ members, member.1 < key) :
    insertMember key value members = members ++ [(key, value)] := by
  induction members with
  | nil => rfl
  | cons other members ih =>
      have before : other.1 < key := h other List.mem_cons_self
      have after : ¬key < other.1 := fun below => String.lt_irrefl _ (String.lt_trans before below)
      have differs : key ≠ other.1 := fun same => String.lt_irrefl _ (same ▸ before)
      rw [insertMember, if_neg after, if_neg differs,
        ih fun member inside => h member (List.mem_cons_of_mem _ inside), List.cons_append]

/-! ## Values without doubles -/

mutual

/-- No number in the value is a double. -/
def noDoubles : Json → Bool
  | .float _ => false
  | .array items => itemsNoDoubles items
  | .object members => membersNoDoubles members
  | _ => true

def itemsNoDoubles : List Json → Bool
  | [] => true
  | item :: items => noDoubles item && itemsNoDoubles items

def membersNoDoubles : List (String × Json) → Bool
  | [] => true
  | (_, value) :: members => noDoubles value && membersNoDoubles members

end

mutual

theorem isExact_of_regular {value : Json} (h : value.Regular) (hvalue : value.noDoubles = true) :
    value.isExact = true := by
  match value with
  | .null | .bool _ | .text _ => rfl
  | .float x => exact absurd hvalue Bool.false_ne_true
  | .int n => simpa [isExact, Regular] using h
  | .array items => exact itemsExact_of_regular h hvalue
  | .object members => exact membersExact_of_regular h.2.2 hvalue

theorem itemsExact_of_regular {items : List Json} (h : ItemsRegular items)
    (hitems : itemsNoDoubles items = true) : itemsExact items = true := by
  match items with
  | [] => rfl
  | item :: items =>
      obtain ⟨here, further⟩ := Bool.and_eq_true_iff.mp hitems
      exact Bool.and_eq_true_iff.mpr
        ⟨isExact_of_regular h.1 here, itemsExact_of_regular h.2 further⟩

theorem membersExact_of_regular {members : List (String × Json)} (h : MembersRegular members)
    (hmembers : membersNoDoubles members = true) : membersExact members = true := by
  match members with
  | [] => rfl
  | (_, value) :: members =>
      obtain ⟨here, further⟩ := Bool.and_eq_true_iff.mp hmembers
      exact Bool.and_eq_true_iff.mpr
        ⟨isExact_of_regular h.1 here, membersExact_of_regular h.2 further⟩

end

end Stockroom.Json

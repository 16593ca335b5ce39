import Stockroom.Proofs.Query.Draft

/-!
# Connectives

A condition is put together from tests by connectives that flatten and collapse what they
are given.  Whatever they do, the truth value is that of the plain conjunction, disjunction
or negation, under every valuation of the tests.  Of what is put together by them alone no
negation is negated, which is exactly what lets a second negation undo the first.
-/

namespace Stockroom

/-! ## Truth values -/

namespace Truth

theorem any_append (truths others : List Truth) :
    any (truths ++ others) = (any truths).or (any others) := by
  induction truths with
  | nil => cases h : any others <;> rw [List.nil_append, h] <;> rfl
  | cons a truths ih => rw [List.cons_append, any_cons, any_cons, ih, or_assoc]

@[simp] theorem not_not (a : Truth) : a.not.not = a := by
  cases a <;> rfl

/-- One of the two values of a test that no null stands in. -/
def IsKnown (a : Truth) : Prop := ∃ value, a = ofBool value

theorem IsKnown.not {a : Truth} : a.IsKnown → a.not.IsKnown := by
  rintro ⟨value, rfl⟩
  exact ⟨!value, by cases value <;> rfl⟩

theorem isKnown_all {truths : List Truth} (h : ∀ a ∈ truths, a.IsKnown) : (all truths).IsKnown := by
  induction truths with
  | nil => exact ⟨true, rfl⟩
  | cons a truths ih =>
      obtain ⟨⟨value, rfl⟩, rest⟩ := List.forall_mem_cons.mp h
      obtain ⟨others, hothers⟩ := ih rest
      rw [all_cons, hothers]
      exact ⟨value && others, by cases value <;> cases others <;> rfl⟩

theorem isKnown_any {truths : List Truth} (h : ∀ a ∈ truths, a.IsKnown) : (any truths).IsKnown := by
  induction truths with
  | nil => exact ⟨false, rfl⟩
  | cons a truths ih =>
      obtain ⟨⟨value, rfl⟩, rest⟩ := List.forall_mem_cons.mp h
      obtain ⟨others, hothers⟩ := ih rest
      rw [any_cons, hothers, ofBool_or]
      exact ⟨_, rfl⟩

end Truth

namespace Condition

/-! ## Valuations of the tests -/

mutual

/-- The truth value of a condition whose tests have the values that `leaf` gives them. -/
def truthWith (leaf : Condition → Truth) : Condition → Truth
  | .all parts => .all (truthsWith leaf parts)
  | .any parts => .any (truthsWith leaf parts)
  | .not part => (truthWith leaf part).not
  | test => leaf test

def truthsWith (leaf : Condition → Truth) : List Condition → List Truth
  | [] => []
  | part :: parts => truthWith leaf part :: truthsWith leaf parts

end

section Valuation

variable (leaf : Condition → Truth)

theorem truthsWith_eq_map (parts : List Condition) :
    truthsWith leaf parts = parts.map (truthWith leaf) := by
  induction parts with
  | nil => rfl
  | cons part parts ih => rw [truthsWith, ih, List.map_cons]

theorem truthWith_all (parts : List Condition) :
    (all parts).truthWith leaf = .all (parts.map (truthWith leaf)) := by
  rw [truthWith, truthsWith_eq_map]

theorem truthWith_any (parts : List Condition) :
    (any parts).truthWith leaf = .any (parts.map (truthWith leaf)) := by
  rw [truthWith, truthsWith_eq_map]

/-! ## Building keeps the meaning -/

theorem truthWith_and (a b : Condition) :
    (a.and b).truthWith leaf = (a.truthWith leaf).and (b.truthWith leaf) := by
  unfold Condition.and
  split
  · rw [truthWith_all, List.map_append, Truth.all_append, ← truthWith_all, List.map_singleton,
      Truth.all_cons, Truth.all_nil, Truth.and_holds]
  · rw [truthWith_all, List.map_cons, List.map_singleton, Truth.all_cons, Truth.all_cons,
      Truth.all_nil, Truth.and_holds]

theorem truthWith_or (a b : Condition) :
    (a.or b).truthWith leaf = (a.truthWith leaf).or (b.truthWith leaf) := by
  unfold Condition.or
  split
  · rw [truthWith_any, List.map_append, Truth.any_append, ← truthWith_any, List.map_singleton,
      Truth.any_cons, Truth.any_nil, Truth.or_fails]
  · rw [truthWith_any, List.map_cons, List.map_singleton, Truth.any_cons, Truth.any_cons,
      Truth.any_nil, Truth.or_fails]

theorem truthWith_negate (condition : Condition) :
    condition.negate.truthWith leaf = (condition.truthWith leaf).not := by
  unfold negate
  split
  · rw [truthWith, Truth.not_not]
  · rw [truthWith]

end Valuation

mutual

/-- Judging the tests on their columns is a valuation of them. -/
theorem truth_eq_truthWith (catalog : Catalog) (judge : Sql.Test Value → Truth) :
    ∀ condition : Condition,
      condition.truth catalog judge = condition.truthWith (truth catalog judge)
  | .eq .. | .oneOf .. | .like .. | .between .. | .fullText .. => rfl
  | .all parts => by rw [truth, truthWith, truths_eq_truthsWith catalog judge parts]
  | .any parts => by rw [truth, truthWith, truths_eq_truthsWith catalog judge parts]
  | .not part => by rw [truth, truthWith, ← truth_eq_truthWith catalog judge part]

theorem truths_eq_truthsWith (catalog : Catalog) (judge : Sql.Test Value → Truth) :
    ∀ parts : List Condition,
      truths catalog judge parts = truthsWith (truth catalog judge) parts
  | [] => rfl
  | part :: parts => by
      rw [truths, truthsWith, ← truth_eq_truthWith catalog judge part,
        truths_eq_truthsWith catalog judge parts]

end

mutual

/-- A valuation that knows every test knows every condition. -/
theorem isKnown_truthWith {leaf : Condition → Truth} (h : ∀ test, (leaf test).IsKnown) :
    ∀ condition : Condition, (condition.truthWith leaf).IsKnown
  | .eq .. | .oneOf .. | .like .. | .between .. | .fullText .. => h _
  | .all parts => Truth.isKnown_all (isKnown_truthsWith h parts)
  | .any parts => Truth.isKnown_any (isKnown_truthsWith h parts)
  | .not part => (isKnown_truthWith h part).not

theorem isKnown_truthsWith {leaf : Condition → Truth} (h : ∀ test, (leaf test).IsKnown) :
    ∀ parts : List Condition, ∀ a ∈ truthsWith leaf parts, a.IsKnown
  | [], _, ha => by cases ha
  | part :: parts, a, ha => by
      rcases List.mem_cons.mp ha with rfl | rest
      · exact isKnown_truthWith h part
      · exact isKnown_truthsWith h parts a rest

end

/-! ## Negated negations -/

/-- The node is the condition itself, or stands somewhere under it. -/
inductive Occurs (node : Condition) : Condition → Prop where
  | here : Occurs node node
  | under {condition part : Condition} (hpart : part ∈ condition.parts)
      (deeper : Occurs node part) : Occurs node condition

/-- No negation stands directly under a negation. -/
def Collapsed (condition : Condition) : Prop :=
  ∀ part, ¬Occurs (.not (.not part)) condition

theorem collapsed_iff {condition : Condition} :
    condition.Collapsed ↔
      (∀ part, condition ≠ .not (.not part)) ∧ ∀ part ∈ condition.parts, part.Collapsed := by
  constructor
  · intro h
    refine ⟨?_, fun part hpart inner occurs => h inner (.under hpart occurs)⟩
    rintro part rfl
    exact h part .here
  · rintro ⟨top, parts⟩ inner occurs
    cases occurs with
    | here => exact top inner rfl
    | under hpart deeper => exact parts _ hpart inner deeper

theorem collapsed_of_operator_ne {condition : Condition} (top : condition.operator ≠ .not)
    (h : ∀ part ∈ condition.parts, part.Collapsed) : condition.Collapsed := by
  refine collapsed_iff.mpr ⟨?_, h⟩
  rintro part rfl
  exact top rfl

theorem Collapsed.part {condition part : Condition} (h : condition.Collapsed)
    (hpart : part ∈ condition.parts) : part.Collapsed :=
  (collapsed_iff.mp h).2 part hpart

theorem parts_and (a b : Condition) :
    (a.and b).parts = a.parts ++ [b] ∨ (a.and b).parts = [a, b] := by
  unfold Condition.and
  split
  · exact .inl rfl
  · exact .inr rfl

theorem parts_or (a b : Condition) :
    (a.or b).parts = a.parts ++ [b] ∨ (a.or b).parts = [a, b] := by
  unfold Condition.or
  split
  · exact .inl rfl
  · exact .inr rfl

/-- What joins two conditions, the first in whole or by its parts, and is no negation. -/
theorem Collapsed.joined {a b joined : Condition} (ha : a.Collapsed) (hb : b.Collapsed)
    (top : joined.operator ≠ .not)
    (hparts : joined.parts = a.parts ++ [b] ∨ joined.parts = [a, b]) : joined.Collapsed := by
  refine collapsed_of_operator_ne top ?_
  rcases hparts with flat | pair
  · rw [flat, List.forall_mem_append, List.forall_mem_singleton]
    exact ⟨fun _ => ha.part, hb⟩
  · rw [pair, List.forall_mem_cons, List.forall_mem_singleton]
    exact ⟨ha, hb⟩

theorem Collapsed.and {a b : Condition} (ha : a.Collapsed) (hb : b.Collapsed) :
    (a.and b).Collapsed :=
  ha.joined hb (by unfold Condition.and; split <;> simp [operator]) (parts_and a b)

theorem Collapsed.or {a b : Condition} (ha : a.Collapsed) (hb : b.Collapsed) :
    (a.or b).Collapsed :=
  ha.joined hb (by unfold Condition.or; split <;> simp [operator]) (parts_or a b)

theorem Collapsed.negate {condition : Condition} (h : condition.Collapsed) :
    condition.negate.Collapsed := by
  unfold Condition.negate
  split
  · exact h.part (List.mem_singleton.mpr rfl)
  · next other =>
    refine collapsed_iff.mpr ⟨?_, fun part hpart => List.mem_singleton.mp hpart ▸ h⟩
    intro part same
    exact other part (Condition.not.inj same)

/-- A second negation undoes the first, unless the condition is itself a negated negation. -/
theorem negate_negate_eq_iff (condition : Condition) :
    condition.negate.negate = condition ↔ ∀ part, condition ≠ .not (.not part) := by
  constructor
  · rintro undone part rfl
    have size := congrArg sizeOf undone
    simp [negate] at size
    omega
  · intro other
    cases condition with
    | not part =>
        cases part with
        | not inner => exact absurd rfl (other inner)
        | _ => rfl
    | _ => rfl

/-! ## Conditions built by the connectives -/

/-- Conditions put together from tests without a negation that is not simplified. -/
inductive Built : Condition → Prop where
  | test {condition : Condition} (h : condition.operator.isComposite = false) : Built condition
  | and {a b : Condition} (ha : Built a) (hb : Built b) : Built (a.and b)
  | or {a b : Condition} (ha : Built a) (hb : Built b) : Built (a.or b)
  | negate {condition : Condition} (h : Built condition) : Built condition.negate
  | all {parts : List Condition} (h : ∀ part ∈ parts, Built part) : Built (.all parts)
  | any {parts : List Condition} (h : ∀ part ∈ parts, Built part) : Built (.any parts)

theorem Built.collapsed {condition : Condition} (h : Built condition) : condition.Collapsed := by
  induction h with
  | @test condition h =>
      have top : condition.operator ≠ .not := by
        intro same
        rw [same] at h
        cases h
      have leaf : condition.parts = [] := by
        cases condition <;> first | rfl | cases h
      exact collapsed_of_operator_ne top (by simp [leaf])
  | and _ _ ha hb => exact ha.and hb
  | or _ _ ha hb => exact ha.or hb
  | negate _ h => exact h.negate
  | all _ h => exact collapsed_of_operator_ne (by simp [operator]) h
  | any _ h => exact collapsed_of_operator_ne (by simp [operator]) h

/-! ## Chains -/

section Chain

variable {join : Condition → Condition → Condition} {node : List Condition → Condition}

theorem foldl_join (grows : ∀ parts other, join (node parts) other = node (parts ++ [other]))
    (parts others : List Condition) : others.foldl join (node parts) = node (parts ++ others) := by
  induction others generalizing parts with
  | nil => rw [List.foldl_nil, List.append_nil]
  | cons other others ih =>
      rw [List.foldl_cons, grows, ih, List.append_assoc, List.singleton_append]

/-- The first link makes the node, the further ones join its parts. -/
theorem foldl_join_of_pairs
    (grows : ∀ parts other, join (node parts) other = node (parts ++ [other]))
    {condition : Condition} (pairs : ∀ other, join condition other = node [condition, other])
    {others : List Condition} (hothers : others ≠ []) :
    others.foldl join condition = node (condition :: others) := by
  obtain ⟨first, rest, rfl⟩ := List.exists_cons_of_ne_nil hothers
  rw [List.foldl_cons, pairs, foldl_join grows]
  rfl

end Chain

theorem and_eq_all {condition : Condition} (h : condition.operator ≠ .all) (other : Condition) :
    condition.and other = .all [condition, other] := by
  cases condition <;> first | exact absurd rfl h | rfl

theorem or_eq_any {condition : Condition} (h : condition.operator ≠ .any) (other : Condition) :
    condition.or other = .any [condition, other] := by
  cases condition <;> first | exact absurd rfl h | rfl

/-! ## The connectives together -/

/--
Building keeps the meaning.  Under every valuation of the tests, which may leave some
unknown, the connectives are conjunction, disjunction and negation of what they join.
What is put together from tests by them holds no negated negation, and its own second
negation is the condition itself; of all conditions only negated negations come out
differently, and with the same meaning.  A chain on something else is one node
with all links as its parts.
-/
theorem building_keeps_meaning :
    (∀ (leaf : Condition → Truth) (a b : Condition),
      (a.and b).truthWith leaf = (a.truthWith leaf).and (b.truthWith leaf) ∧
      (a.or b).truthWith leaf = (a.truthWith leaf).or (b.truthWith leaf) ∧
      a.negate.truthWith leaf = (a.truthWith leaf).not) ∧
    (∀ (leaf : Condition → Truth) (parts : List Condition),
      (all parts).truthWith leaf = .all (parts.map (truthWith leaf)) ∧
      (any parts).truthWith leaf = .any (parts.map (truthWith leaf))) ∧
    (∀ leaf : Condition → Truth, (∀ test, (leaf test).IsKnown) →
      ∀ condition : Condition, (condition.truthWith leaf).IsKnown) ∧
    (∀ (catalog : Catalog) (judge : Sql.Test Value → Truth) (condition : Condition),
      condition.truth catalog judge = condition.truthWith (truth catalog judge)) ∧
    (∀ condition : Condition, Built condition →
      (∀ part, ¬Occurs (.not (.not part)) condition) ∧ condition.negate.negate = condition) ∧
    (∀ condition : Condition,
      (condition.negate.negate = condition ↔ ∀ part, condition ≠ .not (.not part)) ∧
      ∀ leaf, condition.negate.negate.truthWith leaf = condition.truthWith leaf) ∧
    ∀ (condition : Condition) (others : List Condition), others ≠ [] →
      (condition.operator ≠ .all →
        others.foldl Condition.and condition = .all (condition :: others)) ∧
      (condition.operator ≠ .any →
        others.foldl Condition.or condition = .any (condition :: others)) := by
  refine ⟨fun leaf a b => ⟨truthWith_and leaf a b, truthWith_or leaf a b, truthWith_negate leaf a⟩,
    fun leaf parts => ⟨truthWith_all leaf parts, truthWith_any leaf parts⟩,
    fun _ known => isKnown_truthWith known, truth_eq_truthWith, ?_, ?_, ?_⟩
  · intro condition built
    exact ⟨built.collapsed,
      (negate_negate_eq_iff condition).mpr (collapsed_iff.mp built.collapsed).1⟩
  · intro condition
    refine ⟨negate_negate_eq_iff condition, fun leaf => ?_⟩
    rw [truthWith_negate, truthWith_negate, Truth.not_not]
  · intro condition others hothers
    exact ⟨fun h => foldl_join_of_pairs (fun _ _ => rfl) (and_eq_all h) hothers,
      fun h => foldl_join_of_pairs (fun _ _ => rfl) (or_eq_any h) hothers⟩

/-- A negated chain, itself continued from a chain negated twice. -/
theorem building_keeps_meaning_of_chain :
    let drill := Condition.eq "name" (.text "drill")
    let acme := Condition.eq "brand" (.text "acme")
    let chain := ((drill.negate.and acme).negate.negate.and drill).negate
    let equalities := fun test : Condition => Truth.ofBool (test.operator = .eq)
    (∀ test, (equalities test).IsKnown) ∧ (chain.truthWith equalities).IsKnown ∧
      Built chain ∧ chain = .not (.all [.not drill, acme, drill]) ∧
      chain.negate.negate = chain ∧
      [acme, drill] ≠ [] ∧ chain.operator ≠ .all ∧ chain.operator ≠ .any ∧
      [acme, drill].foldl Condition.and chain = .all [chain, acme, drill] ∧
      [acme, drill].foldl Condition.or chain = .any [chain, acme, drill] := by
  intro drill acme chain equalities
  have known : ∀ test, (equalities test).IsKnown := fun _ => ⟨_, rfl⟩
  have built : Built chain :=
    .negate (.and (.negate (.negate (.and (.negate (.test rfl)) (.test rfl)))) (.test rfl))
  have links : [acme, drill] ≠ [] := List.cons_ne_nil _ _
  have notAll : chain.operator ≠ .all := by decide
  have notAny : chain.operator ≠ .any := by decide
  obtain ⟨-, -, keeps, -, undone, -, chained⟩ := building_keeps_meaning
  obtain ⟨joined, split⟩ := chained chain [acme, drill] links
  exact ⟨known, keeps _ known chain, built, rfl, (undone chain built).2, links, notAll, notAny,
    joined notAll, split notAny⟩

end Condition

end Stockroom

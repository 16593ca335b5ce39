import Stockroom.Proofs.Query.Keyset

/-!
# Rows beyond a place

Behind a cursor the rows are ordered by a column and the identifier.  Different
rows are never equal in this order, so the rows beyond a place stand in one order
only, and a page of them is a front of it.
-/

namespace Stockroom

/-! ## The last of the items taken -/

theorem exists_getLast?_take {α : Type} {items : List α} {n : Nat} (hpos : 0 < n)
    (h : n < items.length) : ∃ last, (items.take n).getLast? = some last := by
  have taken : items.take n ≠ [] := by
    rw [Ne, ← List.length_eq_zero_iff, List.length_take]
    omega
  exact Option.ne_none_iff_exists'.mp (mt List.getLast?_eq_none_iff.mp taken)

/-- In a sorted list the last item taken stands between the others taken and what is left. -/
theorem pairwise_around_last {α : Type} {r : α → α → Prop} {items : List α}
    (h : items.Pairwise r) {n : Nat} {last : α} (hlast : (items.take n).getLast? = some last) :
    (∀ item ∈ items.take n, item = last ∨ r item last) ∧ ∀ item ∈ items.drop n, r last item := by
  obtain ⟨init, hinit⟩ := List.getLast?_eq_some_iff.mp hlast
  rw [← List.take_append_drop n items, hinit] at h
  obtain ⟨front, -, across⟩ := List.pairwise_append.mp h
  obtain ⟨-, -, before⟩ := List.pairwise_append.mp front
  constructor
  · intro item taken
    rw [hinit] at taken
    rcases List.mem_append.mp taken with inInit | isLast
    · exact .inr (before item inInit last (List.mem_singleton.mpr rfl))
    · exact .inl (List.mem_singleton.mp isLast)
  · intro item left
    exact across last (List.mem_append_right _ (List.mem_singleton.mpr rfl)) item left

namespace Database

variable (db : Database)

/-- A place in the order of a column and the identifier. -/
abbrev Position := Value × Value

def position (column : String) (device : Device) : Position :=
  (device.columnValue column, device.columnValue "id")

def comparePositions (column : String) : Position → Position → Ordering :=
  compareLex (fun p q => db.compare column p.1 q.1) fun p q => db.compare "id" p.2 q.2

instance (column : String) : Std.TransCmp (db.comparePositions column) := by
  have first : Std.TransCmp fun p q : Position => db.compare column p.1 q.1 :=
    transCmp_on Prod.fst (db.compare column)
  have second : Std.TransCmp fun p q : Position => db.compare "id" p.2 q.2 :=
    transCmp_on Prod.snd (db.compare "id")
  exact inferInstanceAs (Std.TransCmp (compareLex _ _))

def Precedes (column : String) (order : Order) (p q : Position) : Prop :=
  order.directed (db.comparePositions column) p q = .lt

variable {db} {column : String} {order : Order}

instance (p q : Position) : Decidable (db.Precedes column order p q) :=
  inferInstanceAs (Decidable (_ = Ordering.lt))

theorem Precedes.trans {p q r : Position} (hpq : db.Precedes column order p q)
    (hqr : db.Precedes column order q r) : db.Precedes column order p r :=
  Std.TransCmp.lt_trans hpq hqr

theorem Precedes.irrefl (p : Position) : ¬db.Precedes column order p p := by
  simp [Precedes, Std.ReflCmp.compare_self]

theorem precedes_reverse {p q : Position} :
    db.Precedes column order.reverse p q ↔ db.Precedes column order q p := by
  cases order <;> rfl

theorem eq_of_id_eq {a b : Device} (ha : a ∈ db.rows) (hb : b ∈ db.rows) (h : a.id = b.id) :
    a = b := by
  have symmetric : Std.Symm fun a b : Device => a.id ≠ b.id := ⟨fun _ _ hid => hid.symm⟩
  by_contra hne
  exact db.distinct.forall ha hb hne h

/-- Rows in the same place are the same row. -/
theorem eq_of_not_precedes {a b : Device} (ha : a ∈ db.rows) (hb : b ∈ db.rows)
    (hab : ¬db.Precedes column order (position column a) (position column b))
    (hba : ¬db.Precedes column order (position column b) (position column a)) : a = b := by
  have swap : order.directed (db.comparePositions column) (position column b)
      (position column a) = (order.directed (db.comparePositions column) (position column a)
        (position column b)).swap := Std.OrientedCmp.eq_swap
  have same : order.directed (db.comparePositions column) (position column a)
      (position column b) = .eq := by
    unfold Precedes at hab hba
    rw [swap] at hba
    cases h : order.directed (db.comparePositions column) (position column a)
      (position column b) <;> simp_all
  apply eq_of_id_eq ha hb
  cases order with
  | ascending => exact db.different _ _ (Ordering.then_eq_eq.mp same).2
  | descending => exact (db.different _ _ (Ordering.then_eq_eq.mp same).2).symm

theorem compareBy_keysetTerms (a b : Device) :
    db.compareBy (Catalog.keysetTerms column "id" order) a b =
      order.directed (db.comparePositions column) (position column a) (position column b) := by
  unfold Catalog.keysetTerms
  split
  -- The identifier is named once when it is the column itself, and a second time tells nothing.
  next hid =>
    subst hid
    cases order <;> simp [compareBy, compareLex, Order.directed, compareColumn, comparePositions,
      position]
  next =>
    cases order <;> simp [compareBy, compareLex, Order.directed, compareColumn, comparePositions,
      position]

theorem comparesPairs_outcome (device : Device) :
    Sql.ComparesPairs db.compare device.columnValue (db.outcome device) where
  above := by
    intro column id value idValue
    simp [outcome, Ordering.then_eq_gt]
  below := by
    intro column id value idValue
    simp [outcome, Ordering.then_eq_lt]

theorem outcome_beyond (device : Device) (value id : Value) :
    db.outcome device (.beyond column "id" (order = .ascending) value id) = .holds ↔
      db.Precedes column order (value, id) (position column device) :=
  (comparesPairs_outcome device).holds_iff column "id" order value id

theorem nodup_of_sorted {rows : List Device} (h : rows.Pairwise fun a b =>
    db.Precedes column order (position column a) (position column b)) : rows.Nodup := by
  refine h.imp fun hab heq => ?_
  subst heq
  exact absurd hab (Precedes.irrefl _)

/-! ## The rows in their order -/

def Matches (db : Database) (condition : Option Condition) (device : Device) : Prop :=
  device ∈ db.rows ∧
    Condition.clauseTruth Device.catalog (db.outcome device) condition = .holds

/-- The matching rows in the order of a column and the identifier. -/
structure Ranked (db : Database) (condition : Option Condition) (column : String) (order : Order)
    (ranked : List Device) : Prop where
  sorted : ranked.Pairwise fun a b =>
    db.Precedes column order (position column a) (position column b)
  mem : ∀ device, device ∈ ranked ↔ db.Matches condition device

variable {condition : Option Condition} {ranked : List Device}

theorem exists_ranked (db : Database) (condition : Option Condition) (column : String)
    (order : Order) : ∃ ranked, db.Ranked condition column order ranked := by
  let inside := fun device =>
    Condition.clauseTruth Device.catalog (db.outcome device) condition == .holds
  let cmp := fun a b : Device =>
    order.directed (db.comparePositions column) (position column a) (position column b)
  have transitive : Std.TransCmp cmp :=
    transCmp_on (position column) (order.directed (db.comparePositions column))
  have mem : ∀ device, device ∈ (db.rows.filter inside).mergeSort (fun a b => (cmp a b).isLE) ↔
      db.Matches condition device := by
    intro device
    simp [inside, Matches]
  refine ⟨_, ?_, mem⟩
  have nodup : db.rows.Nodup := db.distinct.imp fun hid heq => hid (congrArg Device.id heq)
  have nodupSorted : ((db.rows.filter inside).mergeSort fun a b => (cmp a b).isLE).Nodup :=
    (List.mergeSort_perm _ _).nodup_iff.mpr (nodup.filter _)
  have sorted : ((db.rows.filter inside).mergeSort fun a b => (cmp a b).isLE).Pairwise
      fun a b => (cmp a b).isLE := by
    apply List.pairwise_mergeSort
    · exact fun a b c hab hbc => Std.TransCmp.isLE_trans hab hbc
    · intro a b
      have swap : cmp b a = (cmp a b).swap := Std.OrientedCmp.eq_swap
      rw [swap]
      cases cmp a b <;> rfl
  refine (sorted.and nodupSorted).imp_of_mem fun {a b} ha hb hab => ?_
  by_contra hnot
  apply hab.2
  apply eq_of_not_precedes ((mem a).mp ha).1 ((mem b).mp hb).1 hnot
  exact fun hba => absurd hab.1 (by simp [cmp, Std.OrientedCmp.gt_iff_lt.mpr hba])

theorem Ranked.reverse (h : db.Ranked condition column order ranked) :
    db.Ranked condition column order.reverse ranked.reverse where
  sorted := by
    rw [List.pairwise_reverse]
    exact h.sorted.imp fun hab => precedes_reverse.mpr hab
  mem := by simpa using h.mem

/-! ## The rows ahead -/

/-- The matching rows strictly beyond a place, in their order. -/
structure Ahead (db : Database) (condition : Option Condition) (column : String) (order : Order)
    (start : Position) (rest : List Device) : Prop where
  sorted : rest.Pairwise fun a b =>
    db.Precedes column order (position column a) (position column b)
  mem : ∀ device, device ∈ rest ↔
    db.Matches condition device ∧ db.Precedes column order start (position column device)

variable {start : Position} {rest : List Device}

theorem exists_ahead (db : Database) (condition : Option Condition) (column : String)
    (order : Order) (start : Position) : ∃ rest, db.Ahead condition column order start rest := by
  obtain ⟨ranked, h⟩ := db.exists_ranked condition column order
  refine ⟨ranked.filter fun device => db.Precedes column order start (position column device),
    h.sorted.filter _, fun device => ?_⟩
  rw [List.mem_filter, h.mem, decide_eq_true_iff]

theorem Ahead.nodup (h : db.Ahead condition column order start rest) : rest.Nodup :=
  nodup_of_sorted h.sorted

/-- The rows ahead of a place are the end of all rows. -/
theorem Ranked.exists_eq_append (h : db.Ranked condition column order ranked)
    (ahead : db.Ahead condition column order start rest) : ∃ front, ranked = front ++ rest := by
  let front := ranked.filter fun device =>
    ¬db.Precedes column order start (position column device)
  have memFront : ∀ device, device ∈ front ↔ db.Matches condition device ∧
      ¬db.Precedes column order start (position column device) := by
    intro device
    rw [List.mem_filter, h.mem, decide_eq_true_iff]
  have sorted : (front ++ rest).Pairwise fun a b =>
      db.Precedes column order (position column a) (position column b) := by
    refine List.pairwise_append.mpr ⟨h.sorted.filter _, ahead.sorted, fun a ha b hb => ?_⟩
    obtain ⟨matchesFront, notBeyond⟩ := (memFront a).mp ha
    obtain ⟨matchesRest, beyond⟩ := (ahead.mem b).mp hb
    by_contra hab
    have same : a = b := eq_of_not_precedes matchesFront.1 matchesRest.1 hab fun hba =>
      notBeyond (beyond.trans hba)
    exact notBeyond (same ▸ beyond)
  have perm : ranked.Perm (front ++ rest) := by
    refine (List.perm_ext_iff_of_nodup (nodup_of_sorted h.sorted)
      (nodup_of_sorted sorted)).mpr fun device => ?_
    rw [List.mem_append, memFront, ahead.mem, h.mem, ← and_or_left]
    exact (and_iff_left (Decidable.not_or_of_imp id)).symm
  exact ⟨front, perm.eq_of_pairwise
    (fun _ _ _ _ hab hba => absurd (hab.trans hba) (Precedes.irrefl _)) h.sorted sorted⟩

theorem Ranked.ahead_of_eq_append (h : db.Ranked condition column order ranked)
    {front back : List Device} {device : Device} (cut : ranked = front ++ device :: back) :
    db.Ahead condition column order (position column device) back := by
  subst cut
  obtain ⟨-, sorted, across⟩ := List.pairwise_append.mp h.sorted
  obtain ⟨behind, sortedBack⟩ := List.pairwise_cons.mp sorted
  refine ⟨sortedBack, fun other => ⟨fun hback => ?_, ?_⟩⟩
  · exact ⟨(h.mem other).mp (by simp [hback]), behind other hback⟩
  · rintro ⟨matching, beyond⟩
    rcases List.mem_append.mp ((h.mem other).mpr matching) with before | rest
    · exact absurd ((across other before device (by simp)).trans beyond) (Precedes.irrefl _)
    · rcases List.mem_cons.mp rest with rfl | hback
      · exact absurd beyond (Precedes.irrefl _)
      · exact hback

/-- The rows beyond a row ahead are what follows it. -/
theorem Ahead.drop (h : db.Ahead condition column order start rest) {n : Nat} {last : Device}
    (hlast : (rest.take n).getLast? = some last) :
    db.Ahead condition column order (position column last) (rest.drop n) := by
  obtain ⟨ranked, hranked⟩ := db.exists_ranked condition column order
  obtain ⟨front, hfront⟩ := hranked.exists_eq_append h
  obtain ⟨init, hinit⟩ := List.getLast?_eq_some_iff.mp hlast
  have cut : ranked = (front ++ init) ++ last :: rest.drop n := by
    rw [hfront, List.append_assoc, ← List.singleton_append, ← List.append_assoc init, ← hinit,
      List.take_append_drop]
  exact hranked.ahead_of_eq_append cut

/-- There is one order that the terms of a keyset permit. -/
theorem Ahead.eq_of_perm (h : db.Ahead condition column order start rest)
    {matching sorted : List Device} (hnodup : matching.Nodup)
    (hmatching : ∀ device, device ∈ matching ↔ db.Matches condition device ∧
      db.Precedes column order start (position column device))
    (hperm : sorted.Perm matching)
    (hsorted : sorted.Pairwise fun a b =>
      (db.compareBy (Catalog.keysetTerms column "id" order) a b).isLE) : sorted = rest := by
  have restPerm : sorted.Perm rest := by
    refine hperm.trans ((List.perm_ext_iff_of_nodup hnodup h.nodup).mpr fun device => ?_)
    rw [hmatching, h.mem]
  have restSorted : rest.Pairwise fun a b =>
      (db.compareBy (Catalog.keysetTerms column "id" order) a b).isLE := by
    refine h.sorted.imp fun {a b} hab => ?_
    rw [compareBy_keysetTerms, hab]
    rfl
  refine restPerm.eq_of_pairwise (fun a b ha hb hab hba => ?_) hsorted restSorted
  rw [compareBy_keysetTerms] at hab hba
  refine eq_of_not_precedes ((h.mem a).mp (restPerm.mem_iff.mp ha)).1.1 ((h.mem b).mp hb).1.1
    (fun hlt : db.Precedes column order _ _ => absurd hba ?_) fun hlt => absurd hab ?_
  · simp [Std.OrientedCmp.gt_iff_lt.mpr hlt]
  · simp [Std.OrientedCmp.gt_iff_lt.mpr hlt]

/-! ## Answers behind a cursor -/

theorem nodup_matching (db : Database) (params : List Value) (condition : Option Sql.Expr) :
    (db.matching params condition).Nodup :=
  (db.distinct.imp fun hid heq => hid (congrArg Device.id heq)).filter _

theorem length_matching_lt (db : Database) (params : List Value) (condition : Option Sql.Expr) :
    (db.matching params condition).length < 2 ^ 62 :=
  (List.length_filter_le _ _).trans_lt db.small

theorem mem_matching {params : List Value} {expr : Option Sql.Expr} {device : Device} :
    device ∈ db.matching params expr ↔
      device ∈ db.rows ∧ Sql.clauseTruth (db.outcome device) params expr = .holds := by
  simp [matching]

theorem mem_matching_filter {statement : Statement} (h : Device.catalog.Filters condition statement)
    {device : Device} :
    device ∈ db.matching statement.filterParams statement.filterExpr ↔
      db.Matches condition device := by
  rw [mem_matching, (h.spec Device.catalog_plain).2 _ _ List.prefix_rfl]
  rfl

theorem mem_matching_where {selection : Selection} {cursor : Cursor} {statement : Statement}
    (h : Device.catalog.PagesBeyond selection cursor statement) :
    ∃ value id, Device.catalog.Continues cursor value id ∧
      ∀ device, device ∈ db.matching statement.params statement.whereExpr ↔
        db.Matches selection.condition device ∧
          db.Precedes (Device.catalog.resolve cursor.sortKey.field).name
            (Catalog.travelOrder cursor) (value, id)
            (position (Device.catalog.resolve cursor.sortKey.field).name device) := by
  obtain ⟨value, id, continues, keyset⟩ := h.keyset_truth
  refine ⟨value, id, continues, fun device => ?_⟩
  rw [mem_matching, Statement.whereExpr, Sql.clauseTruth_conjoined, Truth.and_eq_holds, keyset,
    (h.toFilters.spec Device.catalog_plain).2 _ _ (List.take_prefix _ _), ← and_assoc]
  exact and_congr_right fun _ => outcome_beyond device value id

end Database

end Stockroom

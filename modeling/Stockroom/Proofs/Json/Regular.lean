import Stockroom.Proofs.Json.Shape

/-!
# Regular values of texts

What a text stands for is a regular value.  The steps of the reader keep its numbers
within their bounds, and members are put in their place one by one.  A text without the
reserved key stands for a value that is no deeper than the text and has the key
nowhere either.
-/

namespace Stockroom.Json

/-! ## Regular texts -/

/-- A double, or a whole number of 64 bits. -/
def IsNumber : Json → Prop
  | .int n => -2 ^ 63 ≤ n ∧ n < 2 ^ 64
  | .float _ => True
  | _ => False

theorem NumberParts.isNumber_of_value? {parts : NumberParts} {value : Json}
    (h : parts.value? = some value) : value.IsNumber := by
  have double {x : Option Double} (hx : x.map Json.float = some value) : value.IsNumber := by
    obtain ⟨y, -, rfl⟩ := Option.map_eq_some_iff.mp hx
    trivial
  have least : Nat.pow 2 63 = 9223372036854775808 := rfl
  have size : UInt64.size = 18446744073709551616 := rfl
  unfold value? at h
  dsimp only at h
  split at h
  · split at h
    · split at h
      next range =>
        cases h
        simp only [IsNumber]
        omega
      next => exact double h
    · split at h
      next range =>
        cases h
        simp only [IsNumber]
        omega
      next => exact double h
  · exact double h

def Lexeme.Regular : Lexeme → Prop
  | .number n => ∀ value ∈ n, value.IsNumber
  | _ => True

theorem Lexeme.regular_of_ofWord? {word : List Char} {lexeme : Lexeme}
    (h : ofWord? word = some lexeme) : lexeme.Regular := by
  unfold ofWord? at h
  split at h
  · cases h; trivial
  split at h
  · cases h; trivial
  split at h
  · cases h; trivial
  · obtain ⟨parts, -, rfl⟩ := Option.map_eq_some_iff.mp h
    exact fun value hvalue => NumberParts.isNumber_of_value? hvalue

/-- What every step keeps holds at the end of a run. -/
theorem foldlM_of_step {α σ : Type} {step : σ → α → Option σ} {P : σ → Prop} {items : List α}
    (hstep : ∀ item ∈ items, ∀ s t, P s → step s item = some t → P t) {s t : σ} (hs : P s)
    (h : items.foldlM step s = some t) : P t := by
  induction items generalizing s with
  | nil => cases h; exact hs
  | cons item items ih =>
      rw [List.foldlM_cons] at h
      obtain ⟨between, hfirst, hrest⟩ := Option.bind_eq_some_iff.mp h
      obtain ⟨here, further⟩ := List.forall_mem_cons.mp hstep
      exact ih further (here s between hs hfirst) hrest

namespace Cutter

def Regular (cutter : Cutter) : Prop := ∀ lexeme ∈ cutter.lexemes, lexeme.Regular

theorem regular_between? {lexemes : List Lexeme} {c : Char} {next : Cutter}
    (h : ∀ lexeme ∈ lexemes, lexeme.Regular) (hnext : between? lexemes c = some next) :
    next.Regular := by
  unfold between? at hnext
  split at hnext
  all_goals first
    | (cases hnext; simpa [Regular, Lexeme.Regular] using h)
    | (split at hnext <;> cases hnext; exact h)

theorem regular_step {cutter next : Cutter} {glyph : Text.Glyph} (h : cutter.Regular)
    (hnext : cutter.step glyph = some next) : next.Regular := by
  obtain ⟨lexemes, mode⟩ := cutter
  match mode, glyph with
  | .between, .char c => exact regular_between? h hnext
  | .word chars, .char c =>
      simp only [step] at hnext
      split at hnext
      · cases hnext; exact h
      · obtain ⟨lexeme, hword, hbetween⟩ := Option.bind_eq_some_iff.mp hnext
        apply regular_between? _ hbetween
        exact List.forall_mem_cons.mpr ⟨Lexeme.regular_of_ofWord? hword, h⟩
  | .text pieces, .char c =>
      simp only [step] at hnext
      split at hnext
      · cases hnext
        simpa [Regular, Lexeme.Regular] using h
      split at hnext
      · cases hnext; exact h
      split at hnext
      · cases hnext
      · cases hnext; exact h
  | .text pieces, .stray _ => cases hnext; exact h
  | .escape pieces, .char c =>
      simp only [step] at hnext
      split at hnext
      · cases hnext; exact h
      · obtain ⟨plain, -, rfl⟩ := Option.map_eq_some_iff.mp hnext
        exact h
  | .code pieces digitsLeft value, .char c =>
      simp only [step] at hnext
      obtain ⟨digit, -, hdigit⟩ := Option.bind_eq_some_iff.mp hnext
      split at hdigit <;> cases hdigit <;> exact h

end Cutter

theorem regular_of_lexemes? {glyphs : List Text.Glyph} {read : List Lexeme}
    (h : lexemes? glyphs = some read) : ∀ lexeme ∈ read, lexeme.Regular := by
  obtain ⟨cutter, hrun, hfinish⟩ := Option.bind_eq_some_iff.mp h
  have regular : cutter.Regular :=
    foldlM_of_step (fun _ _ _ _ h hnext => Cutter.regular_step h hnext)
      (show Cutter.start.Regular from fun _ h => absurd h List.not_mem_nil) hrun
  obtain ⟨lexemes, mode⟩ := cutter
  cases mode with
  | between =>
      cases hfinish
      simpa [Cutter.Regular] using regular
  | word chars =>
      obtain ⟨lexeme, hword, hread⟩ := Option.bind_eq_some_iff.mp hfinish
      cases hread
      intro other inside
      rcases List.mem_cons.mp (List.mem_reverse.mp inside) with rfl | earlier
      · exact Lexeme.regular_of_ofWord? hword
      · exact regular other earlier
  | text _ => cases hfinish
  | escape _ => cases hfinish
  | code _ _ _ => cases hfinish

namespace Document

mutual

/-- The numbers in a document stand for numbers. -/
def Regular : Document → Prop
  | .number n => ∀ value ∈ n, value.IsNumber
  | .array items => ItemsRegular items
  | .object members => MembersRegular members
  | _ => True

def ItemsRegular : List Document → Prop
  | [] => True
  | item :: items => Regular item ∧ ItemsRegular items

def MembersRegular : List (Option String × Document) → Prop
  | [] => True
  | (_, member) :: members => Regular member ∧ MembersRegular members

end

theorem itemsRegular_iff {items : List Document} :
    ItemsRegular items ↔ ∀ item ∈ items, item.Regular := by
  induction items with
  | nil => simp [ItemsRegular]
  | cons item items ih => simp [ItemsRegular, ih]

theorem membersRegular_iff {members : List (Option String × Document)} :
    MembersRegular members ↔ ∀ member ∈ members, member.2.Regular := by
  induction members with
  | nil => simp [MembersRegular]
  | cons member members ih => simp [MembersRegular, ih]

@[simp] theorem itemsRegular_reverse {items : List Document} :
    ItemsRegular items.reverse ↔ ItemsRegular items := by
  simp [itemsRegular_iff]

@[simp] theorem membersRegular_reverse {members : List (Option String × Document)} :
    MembersRegular members.reverse ↔ MembersRegular members := by
  simp [membersRegular_iff]

def Frame.Regular : Frame → Prop
  | .array items => ItemsRegular items
  | .object members _ => MembersRegular members

namespace Stage

def Regular : Stage → Prop
  | needValue frames | needItem frames => ∀ frame ∈ frames, frame.Regular
  | needKey members frames | needColon members _ frames =>
      MembersRegular members ∧ ∀ frame ∈ frames, frame.Regular
  | complete document frames => document.Regular ∧ ∀ frame ∈ frames, frame.Regular

theorem regular_openValue? {frames : List Frame} {lexeme : Lexeme} {next : Stage}
    (h : ∀ frame ∈ frames, frame.Regular) (hlexeme : lexeme.Regular)
    (hnext : openValue? frames lexeme = some next) : next.Regular := by
  cases lexeme <;> cases hnext
  all_goals simp_all [Regular, Document.Regular, MembersRegular, Lexeme.Regular]

theorem regular_step {stage next : Stage} {lexeme : Lexeme} (h : stage.Regular)
    (hlexeme : lexeme.Regular) (hnext : stage.step lexeme = some next) : next.Regular := by
  cases stage with
  | needValue frames => exact regular_openValue? h hlexeme hnext
  | needItem frames =>
      have started : Frame.Regular (.array []) := by trivial
      cases lexeme with
      | closeArray =>
          cases hnext
          exact ⟨started, h⟩
      | _ => exact regular_openValue? (List.forall_mem_cons.mpr ⟨started, h⟩) hlexeme hnext
  | needKey members frames =>
      -- Only the first key may be missing, so a step depends on whether there are members.
      cases lexeme with
      | closeObject =>
          cases members with
          | nil =>
              cases hnext
              exact h
          | cons _ _ => cases hnext
      | text key => cases members <;> cases hnext <;> exact h
      | _ => cases members <;> cases hnext
  | needColon members key frames =>
      cases lexeme with
      | colon =>
          cases hnext
          exact List.forall_mem_cons.mpr h
      | _ => cases hnext
  | complete document frames =>
      obtain ⟨hdocument, hframes⟩ := h
      cases frames with
      | nil => cases lexeme <;> cases hnext
      | cons frame frames =>
          obtain ⟨hframe, outer⟩ := List.forall_mem_cons.mp hframes
          cases frame with
          | array items =>
              cases lexeme with
              | comma =>
                  cases hnext
                  have longer : Frame.Regular (.array (document :: items)) := ⟨hdocument, hframe⟩
                  exact List.forall_mem_cons.mpr ⟨longer, outer⟩
              | closeArray =>
                  cases hnext
                  exact ⟨itemsRegular_reverse.mpr ⟨hdocument, hframe⟩, outer⟩
              | _ => cases hnext
          | object members key =>
              cases lexeme with
              | comma =>
                  cases hnext
                  exact ⟨⟨hdocument, hframe⟩, outer⟩
              | closeObject =>
                  cases hnext
                  exact ⟨membersRegular_reverse.mpr ⟨hdocument, hframe⟩, outer⟩
              | _ => cases hnext

end Stage

theorem regular_of_ofGlyphs? {glyphs : List Text.Glyph} {document : Document}
    (h : ofGlyphs? glyphs = some document) : document.Regular := by
  obtain ⟨read, hread, hbuilt⟩ := Option.bind_eq_some_iff.mp h
  obtain ⟨stage, hrun, hfinish⟩ := Option.bind_eq_some_iff.mp hbuilt
  have lexemes := regular_of_lexemes? hread
  have regular : stage.Regular :=
    foldlM_of_step
      (fun lexeme inside _ _ h hnext => Stage.regular_step h (lexemes lexeme inside) hnext)
      (show (Stage.needValue []).Regular from fun _ h => absurd h List.not_mem_nil) hrun
  unfold Stage.finish? at hfinish
  split at hfinish
  · cases hfinish
    exact regular.1
  · cases hfinish

/-! ## Values of documents -/

/-- What holds of a document as soon as it holds of all documents directly in it. -/
@[elab_as_elim]
theorem nested {P : Document → Prop} (null : P .null) (bool : ∀ b, P (.bool b))
    (number : ∀ n, P (.number n)) (text : ∀ s, P (.text s))
    (array : ∀ items, (∀ item ∈ items, P item) → P (.array items))
    (object : ∀ members, (∀ member ∈ members, P member.2) → P (.object members))
    (document : Document) : P document :=
  @Document.rec P (fun items => ∀ item ∈ items, P item)
    (fun members => ∀ member ∈ members, P member.2) (fun member => P member.2)
    null bool number text array object
    (fun _ h => absurd h List.not_mem_nil)
    (fun _ _ here further => List.forall_mem_cons.mpr ⟨here, further⟩)
    (fun _ h => absurd h List.not_mem_nil)
    (fun _ _ here further => List.forall_mem_cons.mpr ⟨here, further⟩)
    (fun _ _ here => here) document

variable {embedded : String → Option Json} {limit : Nat}

theorem jsonWith?_array_eq_some {items : List Document} {value : Json}
    (h : (Document.array items).jsonWith? embedded limit = some value) :
    ∃ inner values, limit = inner + 1 ∧ items? embedded inner items = some values ∧
      value = .array values := by
  cases limit with
  | zero => simp [jsonWith?] at h
  | succ inner =>
      rw [jsonWith?] at h
      obtain ⟨values, hvalues, rfl⟩ := Option.map_eq_some_iff.mp h
      exact ⟨inner, values, rfl, hvalues, rfl⟩

theorem jsonWith?_object_eq_some {members : List (Option String × Document)} {value : Json}
    (h : (Document.object members).jsonWith? embedded limit = some value) :
    ∃ inner, limit = inner + 1 ∧
      (isEmbedding members = true ∧ (∃ source, embedded source = some value) ∨
        isEmbedding members = false ∧ ∃ result,
          members? embedded inner [] members = some result ∧ value = .object result) := by
  cases limit with
  | zero => simp [jsonWith?] at h
  | succ inner =>
      rw [jsonWith?] at h
      refine ⟨inner, rfl, ?_⟩
      split at h
      next embeds =>
        obtain ⟨source, -, hsource⟩ := Option.bind_eq_some_iff.mp h
        exact .inl ⟨embeds, source, hsource⟩
      next plain =>
        obtain ⟨result, hresult, rfl⟩ := Option.map_eq_some_iff.mp h
        exact .inr ⟨Bool.eq_false_iff.mpr plain, result, hresult, rfl⟩

theorem forall_of_items? {P : Json → Prop} {items : List Document} {values : List Json}
    (h : items? embedded limit items = some values)
    (hitems : ∀ item ∈ items, ∀ value, item.jsonWith? embedded limit = some value → P value) :
    ∀ value ∈ values, P value := by
  induction items generalizing values with
  | nil => cases h; exact fun _ h => absurd h List.not_mem_nil
  | cons item items ih =>
      rw [items?] at h
      obtain ⟨value, hvalue, hrest⟩ := Option.bind_eq_some_iff.mp h
      obtain ⟨further, hfurther, hvalues⟩ := Option.bind_eq_some_iff.mp hrest
      cases hvalues
      obtain ⟨here, others⟩ := List.forall_mem_cons.mp hitems
      exact List.forall_mem_cons.mpr ⟨here value hvalue, ih hfurther others⟩

theorem members?_cons_eq_some {key : Option String} {member : Document}
    {members : List (Option String × Document)} {sorted result : List (String × Json)}
    (h : members? embedded limit sorted ((key, member) :: members) = some result) :
    ∃ name value, key = some name ∧ member.jsonWith? embedded limit = some value ∧
      members? embedded limit (insertMember name value sorted) members = some result := by
  rw [members?] at h
  obtain ⟨name, hname, hmember⟩ := Option.bind_eq_some_iff.mp h
  obtain ⟨value, hvalue, hrest⟩ := Option.bind_eq_some_iff.mp hmember
  exact ⟨name, value, hname, hvalue, hrest⟩

theorem forall_of_members? {P : String × Json → Prop}
    {members : List (Option String × Document)} {sorted result : List (String × Json)}
    (h : members? embedded limit sorted members = some result) (hsorted : ∀ entry ∈ sorted, P entry)
    (hmembers : ∀ member ∈ members, ∀ name value, member.1 = some name →
      member.2.jsonWith? embedded limit = some value → P (name, value)) :
    ∀ entry ∈ result, P entry := by
  induction members generalizing sorted with
  | nil => cases h; exact hsorted
  | cons member members ih =>
      obtain ⟨name, value, hname, hvalue, hrest⟩ := members?_cons_eq_some h
      obtain ⟨here, others⟩ := List.forall_mem_cons.mp hmembers
      apply ih hrest _ others
      intro entry inside
      rcases mem_insertMember inside with rfl | earlier
      · exact here name value hname hvalue
      · exact hsorted entry earlier

theorem ascending_of_members? {members : List (Option String × Document)}
    {sorted result : List (String × Json)}
    (h : members? embedded limit sorted members = some result)
    (hsorted : Ascending sorted) : Ascending result := by
  induction members generalizing sorted with
  | nil => cases h; exact hsorted
  | cons member members ih =>
      obtain ⟨name, value, -, -, hrest⟩ := members?_cons_eq_some h
      exact ih hrest (ascending_insertMember hsorted name value)

theorem mem_keys_of_members? {members : List (Option String × Document)}
    {sorted result : List (String × Json)}
    (h : members? embedded limit sorted members = some result)
    {key : String} (hkey : key ∈ sorted.map Prod.fst ∨ some key ∈ members.map Prod.fst) :
    key ∈ result.map Prod.fst := by
  induction members generalizing sorted with
  | nil => cases h; simpa using hkey
  | cons member members ih =>
      obtain ⟨name, value, hname, -, hrest⟩ := members?_cons_eq_some h
      apply ih hrest
      rcases hkey with earlier | inside
      · exact .inl (mem_keys_insertMember (.inr earlier))
      · rcases List.mem_cons.mp inside with first | further
        · exact .inl (mem_keys_insertMember (.inl (Option.some.inj (first.trans hname))))
        · exact .inr further

theorem regular_of_jsonWith?
    (hembedded : ∀ source value, embedded source = some value → value.Regular)
    {document : Document} (hdocument : document.Regular) {value : Json}
    (h : document.jsonWith? embedded limit = some value) : value.Regular := by
  induction document using nested generalizing limit value with
  | null => cases h; trivial
  | bool b => cases h; trivial
  | number n =>
      have isNumber := hdocument value h
      cases value <;> simp_all [IsNumber, Json.Regular]
  | text s =>
      obtain ⟨_, -, rfl⟩ := Option.map_eq_some_iff.mp h
      trivial
  | array items ih =>
      obtain ⟨inner, values, rfl, hvalues, rfl⟩ := jsonWith?_array_eq_some h
      apply Json.itemsRegular_iff.mpr
      exact forall_of_items? hvalues fun item inside _ hvalue =>
        ih item inside (itemsRegular_iff.mp hdocument item inside) hvalue
  | object members ih =>
      obtain ⟨inner, rfl, ⟨-, source, hsource⟩ | ⟨plain, result, hresult, rfl⟩⟩ :=
        jsonWith?_object_eq_some h
      · exact hembedded source value hsource
      refine ⟨ascending_of_members? hresult List.Pairwise.nil, fun only alone => ?_, ?_⟩
      -- The first key that was read is another one, and it is not lost.
      · cases members with
        | nil =>
            cases hresult
            cases alone
        | cons member members =>
            obtain ⟨name, _, hname, -, -⟩ := members?_cons_eq_some hresult
            have kept : name ∈ result.map Prod.fst :=
              mem_keys_of_members? hresult (.inr (by simp [hname]))
            have reserved : name = embeddingKey := by simpa [alone] using kept
            simp [isEmbedding, hname, reserved] at plain
      · apply Json.membersRegular_iff.mpr
        refine forall_of_members? hresult (fun _ h => absurd h List.not_mem_nil) ?_
        intro member inside _ _ _ hvalue
        exact ih member inside (membersRegular_iff.mp hdocument member inside) hvalue

theorem regular_of_textValue? {levels : Nat} {source : String} {value : Json}
    (h : textValue? levels source = some value) : value.Regular := by
  induction levels generalizing source value with
  | zero => cases h
  | succ levels ih =>
      obtain ⟨document, hdocument, hvalue⟩ := Option.bind_eq_some_iff.mp h
      exact regular_of_jsonWith? (fun _ _ => ih) (regular_of_ofGlyphs? hdocument) hvalue

theorem regular_of_json? {document : Document} (hdocument : document.Regular) {value : Json}
    (h : document.json? limit = some value) : value.Regular :=
  regular_of_jsonWith? (fun _ _ => regular_of_textValue?) hdocument h

/-! ## Documents without the reserved key -/

mutual

/-- The reserved key is spelled nowhere. -/
def isFree : Document → Bool
  | .array items => itemsFree items
  | .object members => membersFree members
  | _ => true

def itemsFree : List Document → Bool
  | [] => true
  | item :: items => isFree item && itemsFree items

def membersFree : List (Option String × Document) → Bool
  | [] => true
  | (key, member) :: members => key != some embeddingKey && isFree member && membersFree members

end

theorem itemsFree_iff {items : List Document} :
    itemsFree items = true ↔ ∀ item ∈ items, item.isFree = true := by
  induction items with
  | nil => simp [itemsFree]
  | cons item items ih => simp [itemsFree, ih]

theorem membersFree_iff {members : List (Option String × Document)} :
    membersFree members = true ↔
      ∀ member ∈ members, member.1 ≠ some embeddingKey ∧ member.2.isFree = true := by
  induction members with
  | nil => simp [membersFree]
  | cons member members ih => simp [membersFree, ih]

/-- Without embedded texts nothing in a value is deeper than it was written. -/
theorem depth_le_of_jsonWith? {document : Document} (hdocument : document.Regular)
    (hfree : document.isFree = true) {value : Json}
    (h : document.jsonWith? embedded limit = some value) :
    value.depth ≤ limit ∧ value.isPlain = true := by
  induction document using nested generalizing limit value with
  | null => cases h; simp [depth, isPlain]
  | bool b => cases h; simp [depth, isPlain]
  | number n =>
      have isNumber := hdocument value h
      cases value <;> simp_all [IsNumber, depth, isPlain]
  | text s =>
      obtain ⟨_, -, rfl⟩ := Option.map_eq_some_iff.mp h
      simp [depth, isPlain]
  | array items ih =>
      obtain ⟨inner, values, rfl, hvalues, rfl⟩ := jsonWith?_array_eq_some h
      have each := forall_of_items? (P := fun value => value.depth ≤ inner ∧ value.isPlain = true)
        hvalues fun item inside _ hvalue =>
          ih item inside (itemsRegular_iff.mp hdocument item inside)
            (itemsFree_iff.mp hfree item inside) hvalue
      have shallow := itemsDepth_le_iff.mpr fun value inside => (each value inside).1
      have plain := itemsPlain_iff.mpr fun value inside => (each value inside).2
      exact ⟨Nat.succ_le_succ shallow, plain⟩
  | object members ih =>
      have free := membersFree_iff.mp hfree
      obtain ⟨inner, rfl, ⟨embeds, -⟩ | ⟨-, result, hresult, rfl⟩⟩ := jsonWith?_object_eq_some h
      · cases members with
        | nil => cases embeds
        | cons member members =>
            have first : member.1 = some embeddingKey := by simpa [isEmbedding] using embeds
            exact absurd first (free member List.mem_cons_self).1
      have each := forall_of_members?
        (P := fun entry => entry.1 ≠ embeddingKey ∧ entry.2.depth ≤ inner ∧ entry.2.isPlain = true)
        hresult (fun _ h => absurd h List.not_mem_nil) (by
          intro member inside name value hname hvalue
          refine ⟨fun reserved => (free member inside).1 (reserved ▸ hname), ?_⟩
          exact ih member inside (membersRegular_iff.mp hdocument member inside)
            (free member inside).2 hvalue)
      have plain : leadsReserved result = false := by
        cases result with
        | nil => rfl
        | cons entry result => simpa [leadsReserved] using (each entry List.mem_cons_self).1
      have shallow := membersDepth_le_iff.mpr fun entry inside => (each entry inside).2.1
      refine ⟨Nat.succ_le_succ shallow, ?_⟩
      rw [isPlain, plain]
      exact membersPlain_iff.mpr fun entry inside => (each entry inside).2.2

/-! ## Fields of a record -/

/-- The documents that a record can hold its fields in. -/
def parts : Document → List Document
  | .array items => items
  | .object members => members.map Prod.snd
  | _ => []

theorem regular_of_mem_parts {document part : Document} (h : document.Regular)
    (hpart : part ∈ document.parts) : part.Regular := by
  cases document with
  | array items => exact itemsRegular_iff.mp h part hpart
  | object members =>
      obtain ⟨member, inside, rfl⟩ := List.mem_map.mp hpart
      exact membersRegular_iff.mp h member inside
  | _ => exact absurd hpart List.not_mem_nil

theorem isFree_of_mem_parts {document part : Document} (h : document.isFree = true)
    (hpart : part ∈ document.parts) : part.isFree = true := by
  cases document with
  | array items => exact itemsFree_iff.mp h part hpart
  | object members =>
      obtain ⟨member, inside, rfl⟩ := List.mem_map.mp hpart
      exact (membersFree_iff.mp h member inside).2
  | _ => exact absurd hpart List.not_mem_nil

theorem mem_parts_of_field? {members : List (Option String × Document)} {name : String}
    {part : Document} (h : field? members name = some (some part)) :
    part ∈ (Document.object members).parts := by
  unfold field? at h
  split at h
  next => cases h
  next member only =>
    cases h
    have kept : member ∈ members.filter fun other => other.1 == some name := by
      rw [only]
      exact List.mem_cons_self
    exact List.mem_map_of_mem (List.mem_filter.mp kept).1
  next => cases h

theorem exists_of_mapM_eq_some {α β : Type} {f : α → Option β} {items : List α}
    {results : List β} (h : items.mapM f = some results) {result : β} (hresult : result ∈ results) :
    ∃ item ∈ items, f item = some result := by
  induction items generalizing results with
  | nil =>
      cases h
      cases hresult
  | cons item items ih =>
      rw [List.mapM_cons] at h
      obtain ⟨first, hfirst, hrest⟩ := Option.bind_eq_some_iff.mp h
      obtain ⟨others, hothers, hresults⟩ := Option.bind_eq_some_iff.mp hrest
      cases hresults
      rcases List.mem_cons.mp hresult with rfl | further
      · exact ⟨item, List.mem_cons_self, hfirst⟩
      · obtain ⟨other, inside, hother⟩ := ih hothers further
        exact ⟨other, List.mem_cons_of_mem _ inside, hother⟩

theorem mem_parts_of_record? {names : List String} {needed : Nat} {document : Document}
    {fields : List (Option Document)} (h : document.record? names needed = some fields)
    {part : Document} (hpart : some part ∈ fields) : part ∈ document.parts := by
  cases document with
  | array items =>
      rw [record?] at h
      split at h
      next =>
        cases h
        rcases List.mem_append.mp hpart with inside | left
        · simpa [parts] using inside
        · exact absurd (List.eq_of_mem_replicate left) (Option.some_ne_none part)
      next => cases h
  | object members =>
      rw [record?] at h
      split at h
      next =>
        obtain ⟨name, -, hname⟩ := exists_of_mapM_eq_some h hpart
        exact mem_parts_of_field? hname
      next => cases h
  | _ => cases h

end Document

end Stockroom.Json

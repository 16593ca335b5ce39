import Stockroom.Proofs.Settings.Loading
import Stockroom.Proofs.Text.Woven

/-!
# The address and its parts

An address made of parts has them between the marks `:`, `@`, `:` and `/` as they are, a mark
that stands in a part included.  Such a mark can be taken for one between two parts, and then
other parts have the same address.
-/

namespace Stockroom.Settings

namespace AddressParts

/-- The parts behind the user, each with the mark in front of it. -/
def marked (parts : AddressParts) : List (Char × List Char) :=
  [(':', parts.password.toList), ('@', parts.host.toList), (':', parts.port.toList),
    ('/', parts.database.toList)]

/-- No part contains a mark that stands at one of its ends. -/
structure Separate (parts : AddressParts) : Prop where
  user : ':' ∉ parts.user.toList
  password : ':' ∉ parts.password.toList ∧ '@' ∉ parts.password.toList
  host : '@' ∉ parts.host.toList ∧ ':' ∉ parts.host.toList
  port : ':' ∉ parts.port.toList ∧ '/' ∉ parts.port.toList
  database : '/' ∉ parts.database.toList

/-- No part contains the mark behind it. -/
structure Terminated (parts : AddressParts) : Prop where
  user : ':' ∉ parts.user.toList
  password : '@' ∉ parts.password.toList
  host : ':' ∉ parts.host.toList
  port : '/' ∉ parts.port.toList

theorem separate_iff_apart {parts : AddressParts} :
    parts.Separate ↔ Text.Apart parts.user.toList parts.marked :=
  ⟨fun ⟨user, ⟨password, password'⟩, ⟨host, host'⟩, ⟨port, port'⟩, database⟩ =>
    ⟨user, password, password', host, host', port, port', database, trivial⟩,
  fun ⟨user, password, password', host, host', port, port', database, _⟩ =>
    ⟨user, ⟨password, password'⟩, ⟨host, host'⟩, ⟨port, port'⟩, database⟩⟩

theorem Terminated.woven {parts : AddressParts} (h : parts.Terminated) :
    Text.Terminated parts.user.toList parts.marked :=
  ⟨h.user, h.password, h.host, h.port, trivial⟩

theorem toList_url (parts : AddressParts) :
    parts.url.toList = "postgres://".toList ++ Text.weave parts.user.toList parts.marked := by
  unfold url
  simp only [marked, Text.weave, String.toList_append, List.append_assoc,
    List.append_cancel_left_eq]
  simp

theorem url_eq_iff {parts other : AddressParts} :
    other.url = parts.url ↔ Text.weave other.user.toList other.marked =
      Text.weave parts.user.toList parts.marked := by
  rw [← String.toList_inj, toList_url, toList_url, List.append_cancel_left_eq]

theorem eq_of_marked {parts other : AddressParts} (user : other.user.toList = parts.user.toList)
    (marked : other.marked = parts.marked) : other = parts := by
  simp only [AddressParts.marked, List.cons.injEq, Prod.mk.injEq, String.toList_inj, true_and,
    and_true] at marked
  obtain ⟨password, host, port, database⟩ := marked
  cases other
  simp only [String.toList_inj] at user password host port database
  subst user password host port database
  rfl

/-- Texts behind these marks are those of some parts. -/
theorem exists_marked (parts : AddressParts) (first : List Char) {rest : List (Char × List Char)}
    (marks : rest.map Prod.fst = parts.marked.map Prod.fst) :
    ∃ other : AddressParts, other.user.toList = first ∧ other.marked = rest := by
  match rest, marks with
  | [(_, password), (_, host), (_, port), (_, database)], rfl =>
      refine ⟨⟨.ofList first, .ofList password, .ofList host, .ofList port, .ofList database⟩, ?_⟩
      simp [marked]

theorem separate_iff_url_unique {parts : AddressParts} :
    parts.Separate ↔ ∀ other : AddressParts, other.url = parts.url → other = parts := by
  rw [separate_iff_apart, Text.apart_iff_weave_unique]
  constructor
  · intro unique other same
    obtain ⟨user, marked⟩ := unique _ other.marked rfl (url_eq_iff.mp same)
    exact eq_of_marked user marked
  · intro unique first rest marks same
    obtain ⟨other, rfl, rfl⟩ := exists_marked parts first marks
    obtain rfl := unique other (url_eq_iff.mpr same)
    exact ⟨rfl, rfl⟩

theorem url_inj_of_terminated {parts other : AddressParts} (h : parts.Terminated)
    (h' : other.Terminated) (same : other.url = parts.url) : other = parts := by
  obtain ⟨user, marked⟩ :=
    Text.weave_inj_of_terminated h.woven h'.woven rfl (url_eq_iff.mp same)
  exact eq_of_marked user marked

/-- The parts in the place of those of a lookup. -/
def replacing (parts : AddressParts) (lookup : String → Option String) : String → Option String :=
  fun key =>
    ([("PGUSER", parts.user), ("PGPASSWORD", parts.password), ("PGHOST", parts.host),
      ("PGPORT", parts.port), ("PGDATABASE", parts.database)].lookup key).or (lookup key)

end AddressParts

/-! ## Loaded addresses -/

/-- Settings with an address made of its parts, which are all given. -/
structure MadeOf (parts : AddressParts) (lookup : String → Option String)
    (settings : Settings) : Prop where
  unwhole : lookup "DATABASE_URL" = none
  given : parts.Given lookup
  port : lookup "PGPORT" = some parts.port
  loaded : load lookup = .ok settings

variable {parts : AddressParts} {lookup : String → Option String} {settings : Settings}

theorem MadeOf.url_eq (h : MadeOf parts lookup settings) : settings.database.url = parts.url := by
  have known := urlOfParts?_of_given h.given
  have addressed := (follows_of_load h.loaded).url
  generalize settings.database.url = url at addressed
  cases addressed with
  | whole present => exact nomatch h.unwhole.symm.trans present
  | parts _ given => exact Option.some.inj ((urlOfParts?_of_given given).symm.trans known)
  | standard _ needed missing =>
      exact nomatch (urlOfParts?_of_missing needed missing).symm.trans known

/-- No check looks at a part, so any other parts can be loaded as well. -/
theorem MadeOf.exists_replacing (h : MadeOf parts lookup settings) (other : AddressParts) :
    ∃ settings, MadeOf other (other.replacing lookup) settings := by
  have kept : ∀ check ∈ Check.inOrder, other.replacing lookup check.key = lookup check.key := by
    simp only [Check.inOrder, List.forall_mem_cons]
    exact ⟨rfl, rfl, rfl, rfl, rfl, rfl, rfl, nofun⟩
  have passes := exists_load_iff.mp ⟨settings, h.loaded⟩
  obtain ⟨settings, loaded⟩ := exists_load_iff.mpr fun check asked =>
    (Check.passes_congr (kept check asked)).mpr (passes check asked)
  exact ⟨settings, h.unwhole, ⟨rfl, rfl, rfl, rfl, rfl⟩, rfl, loaded⟩

/--
The parts can be told from the loaded address if and only if none of them contains a mark that
stands at one of its ends.  Among parts that do not contain the mark behind them, they can
always be told.
-/
theorem url_tells_parts_iff (h : MadeOf parts lookup settings) :
    ((∀ parts' lookup' settings', MadeOf parts' lookup' settings' →
      settings'.database.url = settings.database.url → parts' = parts) ↔ parts.Separate) ∧
    (parts.Terminated → ∀ parts' lookup' settings', MadeOf parts' lookup' settings' →
      parts'.Terminated → settings'.database.url = settings.database.url → parts' = parts) := by
  refine ⟨⟨fun unique => ?_, fun separate parts' lookup' settings' h' same => ?_⟩,
    fun terminated parts' lookup' settings' h' terminated' same => ?_⟩
  · refine AddressParts.separate_iff_url_unique.mpr fun other same => ?_
    obtain ⟨settings', h'⟩ := h.exists_replacing other
    exact unique other _ settings' h' (by rw [h'.url_eq, h.url_eq, same])
  · exact AddressParts.separate_iff_url_unique.mp separate parts'
      (by rw [← h'.url_eq, ← h.url_eq, same])
  · exact AddressParts.url_inj_of_terminated terminated terminated'
      (by rw [← h'.url_eq, ← h.url_eq, same])

/-- A mark in the password that does not stand at its ends. -/
def slashPassword : AddressParts := ⟨"app", "s/cret", "db", "5432", "stock"⟩

theorem url_tells_parts_of_slashPassword :
    ∃ settings, MadeOf slashPassword (slashPassword.replacing fun _ => none) settings ∧
      slashPassword.Separate ∧
      ∀ parts' lookup' settings', MadeOf parts' lookup' settings' →
        settings'.database.url = settings.database.url → parts' = slashPassword := by
  have made : MadeOf slashPassword (slashPassword.replacing fun _ => none)
      { standard with database :=
        { standard.database with url := "postgres://app:s/cret@db:5432/stock" } } :=
    ⟨rfl, ⟨rfl, rfl, rfl, rfl, rfl⟩, rfl, rfl⟩
  have separate : slashPassword.Separate :=
    ⟨by decide, by decide, by decide, by decide, by decide⟩
  exact ⟨_, made, separate, (url_tells_parts_iff made).1.mpr separate⟩

/-- A password with the mark that ends it, which can be taken for the end. -/
def atPassword : AddressParts := ⟨"app", "p@ss", "db", "5432", "stock"⟩

def atHost : AddressParts := ⟨"app", "p", "ss@db", "5432", "stock"⟩

theorem url_of_atPassword_tells_no_parts :
    ∃ settings settings', MadeOf atPassword (atPassword.replacing fun _ => none) settings ∧
      MadeOf atHost (atHost.replacing fun _ => none) settings' ∧
      settings'.database.url = settings.database.url ∧
      atHost.password ≠ atPassword.password ∧ atHost.host ≠ atPassword.host := by
  refine ⟨{ standard with database :=
      { standard.database with url := "postgres://app:p@ss@db:5432/stock" } }, _,
    ⟨rfl, ⟨rfl, rfl, rfl, rfl, rfl⟩, rfl, rfl⟩, ⟨rfl, ⟨rfl, rfl, rfl, rfl, rfl⟩, rfl, rfl⟩,
    rfl, by decide, by decide⟩

end Stockroom.Settings

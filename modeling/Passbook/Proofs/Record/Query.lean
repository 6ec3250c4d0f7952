import Passbook.Http.Extract
import Passbook.Http.Records
import Passbook.Proofs.Text.Decimal
import Passbook.Proofs.Url.Written

/-!
# Records in queries, there and back

A record is written into a query as one pair for each of its values. It is read back from the query, and
from a request that asks for a path with this query, whatever characters its texts have and whatever
numbers of 64 bits it names. So every such record can be asked for.
-/
namespace Passbook

/-- Whether a value is of a kind. An integer has to be one of 64 bits. -/
def Scalar.IsOf : Scalar → Scalar.Kind → Prop
  | .text _, .text => True
  | .int n, .int => IntegerRange.signed64.holds n = true
  | _, _ => False

/-- A value as it stands in a query. -/
def Scalar.chars : Scalar → List Char
  | .text s => s
  | .int n => Decimal.ofInt n

namespace RecordShape

variable {α : Type} {shape : RecordShape α}

/-- Whether these are values of different members of a record, each of the kind of its member. -/
structure Has (shape : RecordShape α) (values : Found) : Prop where
  known : ∀ value ∈ values, ∃ member ∈ shape.members, member.name = value.1 ∧ value.2.IsOf member.kind
  distinct : (values.map Prod.fst).Nodup

theorem member?_eq_some {member : Member} (hdistinct : (shape.members.map Member.name).Nodup)
    (h : member ∈ shape.members) : shape.member? member.name.toList = some member := by
  unfold member?
  generalize shape.members = members at hdistinct h
  induction members with
  | nil => exact absurd h List.not_mem_nil
  | cons first members ih =>
      rw [List.map_cons, List.nodup_cons] at hdistinct
      rcases List.mem_cons.mp h with rfl | h
      · exact List.find?_cons_of_pos (by simp)
      · have hne : first.name ≠ member.name := fun heq => hdistinct.1 (heq ▸ List.mem_map_of_mem h)
        rw [List.find?_cons_of_neg (by simpa [String.toList_inj] using hne)]
        exact ih hdistinct.2 h

end RecordShape

theorem Found.lookup_eq_none {found : Found} {name : String} (h : name ∉ found.map Prod.fst) :
    found.lookup name = none := by
  refine List.lookup_eq_none_iff.mpr fun value hvalue => ?_
  have hne : name ≠ value.1 := fun heq => h (heq ▸ List.mem_map_of_mem hvalue)
  simpa using hne

namespace QueryString

variable {α : Type} {shape : RecordShape α}

theorem scalar_chars {value : Scalar} {kind : Scalar.Kind} (h : value.IsOf kind) :
    scalar kind value.chars = .ok value := by
  cases kind with
  | text =>
      cases value with
      | text s => rfl
      | int n => exact h.elim
  | int =>
      cases value with
      | text s => exact h.elim
      | int n => rw [Scalar.chars, scalar, Decimal.read_ofInt h]

/-- The pairs that give members their values. -/
def pairs (values : Found) : List (List Char × List Char) :=
  values.map fun value => (value.1.toList, value.2.chars)

theorem gather_pairs {found values : Found} (hmembers : (shape.members.map Member.name).Nodup)
    (hknown : ∀ value ∈ values, ∃ member ∈ shape.members, member.name = value.1 ∧
      value.2.IsOf member.kind)
    (hdistinct : (found.map Prod.fst ++ values.map Prod.fst).Nodup) :
    gather shape found (pairs values) = .ok (values.reverse ++ found) := by
  induction values generalizing found with
  | nil => rfl
  | cons value values ih =>
      obtain ⟨⟨member, hmember, hname, hkind⟩, hrest⟩ := List.forall_mem_cons.mp hknown
      have hnew : found.lookup value.1 = none := Found.lookup_eq_none fun hmem =>
        (List.nodup_append.mp hdistinct).2.2 _ hmem _ List.mem_cons_self rfl
      have hnext : (((value.1, value.2) :: found).map Prod.fst ++ values.map Prod.fst).Nodup :=
        List.perm_middle.nodup_iff.mp hdistinct
      have hrec := ih hrest hnext
      rw [pairs, List.map_cons, gather, ← hname, RecordShape.member?_eq_some hmembers hmember, hname]
      dsimp only
      rw [scalar_chars hkind, hname, hnew]
      simp only [Option.isSome_none, Bool.false_eq_true, if_false, List.reverse_cons, List.append_assoc,
        List.singleton_append]
      exact hrec

def written (values : Found) : List Char := (pairs values).foldl Url.extendQuery []

theorem number_not_mem_written (values : Found) : '#' ∉ written values :=
  Url.number_not_mem_foldl_extendQuery List.not_mem_nil (pairs values)

/-- A record is read from the query that gives all its members their values. -/
theorem read_written {values : Found} {record : α} (hmembers : (shape.members.map Member.name).Nodup)
    (hhas : shape.Has values) (hbuild : shape.build values.reverse = .ok record) :
    read shape (Utf8.encode (written values)) = .ok record := by
  have hgather : gather shape [] (pairs values) = .ok values.reverse := by
    rw [gather_pairs hmembers hhas.known (by simpa using hhas.distinct), List.append_nil]
  rw [read, written, Url.pairs_foldl_extendQuery]
  change (gather shape [] (pairs values)).bind _ = _
  rw [hgather, Except.bind, hbuild]
  rfl

end QueryString

namespace Http

/-- A request for a path, with a query that gives members their values. -/
def Request.getting (path : String) (values : Found) : Request where
  method := "GET"
  target := String.ofList (path.toList ++ '?' :: QueryString.written values)

namespace Request

variable {α : Type} {shape : RecordShape α}

theorem resource_getting {path : String} (hpath : '#' ∉ path.toList ∧ '?' ∉ path.toList) (values : Found) :
    (getting path values).resource = (path.toList, QueryString.written values) := by
  have hnumber : '#' ∉ path.toList ++ '?' :: QueryString.written values := by
    rw [List.mem_append, List.mem_cons]
    rintro (hmem | heq | hmem)
    · exact hpath.1 hmem
    · cases heq
    · exact QueryString.number_not_mem_written values hmem
  rw [resource, getting, String.toList_ofList, Split.first_of_not_mem hnumber, Split.first_append hpath.2]

theorem queryRecord_getting {path : String} (hpath : '#' ∉ path.toList ∧ '?' ∉ path.toList)
    {values : Found} {record : α} (hmembers : (shape.members.map Member.name).Nodup)
    (hhas : shape.Has values) (hbuild : shape.build values.reverse = .ok record) :
    (getting path values).queryRecord shape = .ok record := by
  rw [queryRecord, query, resource_getting hpath, QueryString.read_written hmembers hhas hbuild]
  rfl

end Request
end Http

namespace AccountPage

def values (page : AccountPage) : Found :=
  [("owner", .text page.owner.toList), ("page_id", .int page.number), ("page_size", .int page.size)]

theorem has_values {page : AccountPage} (hnumber : IntegerRange.signed64.holds page.number = true)
    (hsize : IntegerRange.signed64.holds page.size = true) : shape.Has page.values where
  known := by simp [values, shape, Scalar.IsOf, hnumber, hsize]
  distinct := by simp [values]

theorem build_values (page : AccountPage) : shape.build page.values.reverse = .ok page := by
  simp [shape, values, Found.int, Found.text, List.lookup, bind, Except.bind, pure, Except.pure]

theorem queryRecord_getting {page : AccountPage} (hnumber : IntegerRange.signed64.holds page.number = true)
    (hsize : IntegerRange.signed64.holds page.size = true) :
    (Http.Request.getting "/api/v1/accounts" page.values).queryRecord shape = .ok page :=
  Http.Request.queryRecord_getting (by decide +kernel) (by decide) (has_values hnumber hsize)
    (build_values page)

end AccountPage

namespace Confirmation

def values (confirmation : Confirmation) : Found :=
  [("email_id", .int confirmation.recordId), ("secret_code", .text confirmation.secretCode.toList)]

theorem has_values {confirmation : Confirmation}
    (hid : IntegerRange.signed64.holds confirmation.recordId = true) : shape.Has confirmation.values where
  known := by simp [values, shape, Scalar.IsOf, hid]
  distinct := by simp [values]

theorem build_values (confirmation : Confirmation) :
    shape.build confirmation.values.reverse = .ok confirmation := by
  simp [shape, values, Found.int, Found.text, List.lookup, bind, Except.bind, pure, Except.pure]

theorem queryRecord_getting {confirmation : Confirmation}
    (hid : IntegerRange.signed64.holds confirmation.recordId = true) :
    (Http.Request.getting "/api/v1/verify_email" confirmation.values).queryRecord shape = .ok confirmation :=
  Http.Request.queryRecord_getting (by decide +kernel) (by decide) (has_values hid)
    (build_values confirmation)

end Confirmation
end Passbook

import Passbook.Proofs.Json.Reader
import Passbook.Proofs.Record.Query

/-!
# Records in bodies, there and back

A record is written as a JSON object with one member for each of its values. It is read back from the
bytes of this object, and from a request that posts them, whatever characters its texts have and whatever
numbers of 64 bits it names. So every such record can be posted, and an account can be asked for without an
opening balance.
-/
namespace Passbook

open Json (Value EndsNumber nameBytes digitBytes isDigitByte)

/-- A value as it stands in a body. -/
def Scalar.json : Scalar → Value
  | .text s => .text s
  | .int n => .int n

namespace Body

variable {α : Type} {shape : RecordShape α} {found : Found}

/-- An integer that is read as a number is one that a member can hold. -/
theorem integer_int {n : Int} (h : IntegerRange.signed64.holds n = true) : integer (.int n) = .ok (.int n) :=
  if_pos h

theorem value_json {value : Scalar} {kind : Scalar.Kind} (h : value.IsOf kind) {rest : List UInt8}
    (hrest : EndsNumber rest) : Body.value kind (value.json.bytes ++ rest) = .ok (value, rest) := by
  match kind, value, h with
  | .text, .text s, _ =>
      rw [Scalar.json, Value.bytes_text, List.cons_append, List.append_assoc, List.singleton_append, Body.value,
        Json.dropBlanks_mark (by decide)]
      simp only [scalar, if_true, Json.string_quote]
      rfl
  | .int, .int (.ofNat n), h =>
      have hhigh : (n : Int) ≤ 0x7fffffffffffffff := of_decide_eq_true (Bool.and_eq_true_iff.mp h).2
      have hlimit : n ≤ Json.Numeral.limit := by
        change n ≤ 0xffffffffffffffff
        omega
      obtain ⟨c, digits, hdigits, hc⟩ := Decimal.ofNat_eq_cons n
      have hdigit := (Json.digit_toNat hc).1
      obtain ⟨hblank, -, -, -, -, -, -, hminus⟩ := Json.digit_ne hdigit
      have hnumber := Json.number_digits hlimit hrest
      rw [Scalar.json, Value.bytes_ofNat]
      rw [digitBytes, hdigits, List.map_cons, List.cons_append] at hnumber ⊢
      rw [Body.value, Json.dropBlanks_mark hblank]
      simp only [scalar, if_pos (Or.inr hdigit), if_neg hminus, hnumber]
      exact congrArg (Except.map fun value => (value, rest)) (integer_int h)
  | .int, .int (.negSucc n), h =>
      have hlow : -0x8000000000000000 ≤ Int.negSucc n := of_decide_eq_true (Bool.and_eq_true_iff.mp h).1
      have hnumber := Json.number_negative (n := n + 1) (by omega) (by omega) hrest
      rw [Scalar.json, Value.bytes_negSucc, List.cons_append, Body.value, Json.dropBlanks_mark (by decide)]
      simp only [scalar, true_or, if_true, hnumber]
      exact congrArg (Except.map fun value => (value, rest)) (integer_int h)

theorem objectMembers_member {first : Bool} {s behind rest : List UInt8} {member : Member} {value : Scalar}
    (hkey : nextKey first s = .ok (some member.name.toList, 0x3A :: behind))
    (hmember : shape.member? member.name.toList = some member) (hnew : found.lookup member.name = none)
    (hvalue : Body.value member.kind behind = .ok (value, rest)) :
    objectMembers shape first found s = objectMembers shape false ((member.name, value) :: found) rest := by
  have hcheck : checkNew (shape.member? member.name.toList) found = .ok () := by
    rw [hmember, checkNew, hnew]
    rfl
  have hadded : memberValue (shape.member? member.name.toList) found behind =
      .ok ((member.name, value) :: found, rest) := by
    rw [hmember, memberValue, hvalue]
    rfl
  rw [objectMembers]
  split
  · next hfault => cases hfault.symm.trans hkey
  · next hend => cases hend.symm.trans hkey
  · next hnext =>
      cases hnext.symm.trans hkey
      rw [hcheck]
      dsimp only
      split
      · next hfault => cases hfault.symm.trans (Json.behindColon_colon behind)
      · next hcolon =>
          cases hcolon.symm.trans (Json.behindColon_colon behind)
          split
          · next hfault => cases hfault.symm.trans hadded
          · next hread =>
              cases hread.symm.trans hadded
              rfl

theorem objectMembers_end (first : Bool) (rest : List UInt8) :
    objectMembers shape first found (0x7D :: rest) = .ok (found, rest) := by
  have hend : nextKey first (0x7D :: rest) = .ok (none, rest) := by
    rw [nextKey, Json.dropBlanks_mark (by decide)]
    rfl
  rw [objectMembers]
  split
  · next hfault => cases hfault.symm.trans hend
  · next hnext =>
      cases hnext.symm.trans hend
      rfl
  · next hnext => cases hnext.symm.trans hend

/-- The fields of the object that gives members their values. -/
def fields (values : Found) : List (String × Value) := values.map fun value => (value.1, value.2.json)

def memberBytes (field : String × Value) : List UInt8 := 0x2C :: (nameBytes field.1 ++ field.2.bytes)

/-- The values of further members are added to those that were found before. -/
theorem objectMembers_further {values : Found} (hmembers : (shape.members.map Member.name).Nodup)
    (hknown : ∀ value ∈ values, ∃ member ∈ shape.members, member.name = value.1 ∧
      value.2.IsOf member.kind)
    (hdistinct : (found.map Prod.fst ++ values.map Prod.fst).Nodup) (rest : List UInt8) :
    objectMembers shape false found ((fields values).flatMap memberBytes ++ 0x7D :: rest) =
      .ok (values.reverse ++ found, rest) := by
  induction values generalizing found with
  | nil => exact objectMembers_end false rest
  | cons value values ih =>
      obtain ⟨name, value⟩ := value
      obtain ⟨⟨member, hmember, rfl, hkind⟩, hrest⟩ := List.forall_mem_cons.mp hknown
      have hnew : found.lookup member.name = none := Found.lookup_eq_none fun hmem =>
        (List.nodup_append.mp hdistinct).2.2 _ hmem _ List.mem_cons_self rfl
      have hnext : (((member.name, value) :: found).map Prod.fst ++ values.map Prod.fst).Nodup :=
        List.perm_middle.nodup_iff.mp hdistinct
      let further := (fields values).flatMap memberBytes ++ 0x7D :: rest
      have hwritten : (fields ((member.name, value) :: values)).flatMap memberBytes ++ 0x7D :: rest =
          0x2C :: (nameBytes member.name ++ (value.json.bytes ++ further)) := by
        simp only [fields, List.map_cons, List.flatMap_cons, memberBytes, List.cons_append, List.append_assoc,
          further]
      have hkey := Json.nextKey_further member.name (value.json.bytes ++ further)
      have hends : EndsNumber further := Json.endsNumber_further _ (fields values) (.inr rfl) rest
      rw [hwritten, objectMembers_member hkey (RecordShape.member?_eq_some hmembers hmember) hnew
        (value_json hkind hends), ih hrest hnext, List.reverse_cons, List.append_assoc]
      rfl

theorem read_object {values : Found} {record : α} (hmembers : (shape.members.map Member.name).Nodup)
    (hhas : shape.Has values) (hbuild : shape.build values.reverse = .ok record) :
    read shape (Value.object (fields values)).bytes = .ok record := by
  have hvalues : Body.values shape (Value.object (fields values)).bytes = .ok (values.reverse, []) := by
    rw [Value.bytes_object, Body.values, Json.dropBlanks_mark (by decide)]
    dsimp only
    rw [if_pos rfl]
    obtain ⟨hknown, hdistinct⟩ := hhas
    cases values with
    | nil => exact objectMembers_end true []
    | cons value values =>
        obtain ⟨name, value⟩ := value
        obtain ⟨⟨member, hmember, rfl, hkind⟩, hrest⟩ := List.forall_mem_cons.mp hknown
        let further := (fields values).flatMap memberBytes ++ [0x7D]
        have hkey := Json.nextKey_first member.name (value.json.bytes ++ further)
        have hends : EndsNumber further := Json.endsNumber_further _ (fields values) (.inr rfl) []
        have hdistinct' : ([(member.name, value)].map Prod.fst ++ values.map Prod.fst).Nodup := hdistinct
        have hwritten : Utf8.encode (Value.fieldChars (fields ((member.name, value) :: values))) ++ [0x7D] =
            nameBytes member.name ++ (value.json.bytes ++ further) := by
          rw [fields, List.map_cons, Value.encode_fieldChars, List.append_assoc, List.append_assoc]
          rfl
        have hnew : ([] : Found).lookup member.name = none := rfl
        rw [hwritten, objectMembers_member hkey (RecordShape.member?_eq_some hmembers hmember) hnew
          (value_json hkind hends), objectMembers_further hmembers hrest hdistinct', List.reverse_cons]
  rw [read, hvalues]
  change (inside ['.'] (shape.build values.reverse)).bind _ = _
  rw [hbuild]
  rfl

end Body

namespace Http

/-- A request that posts the object which gives members their values. -/
def Request.posting (path : String) (values : Found) : Request where
  method := "POST"
  target := path
  headers := [("content-type", "application/json")]
  body := (Value.object (Body.fields values)).bytes

namespace Request

variable {α : Type} {shape : RecordShape α}

theorem path_posting {path : String} (hpath : '#' ∉ path.toList ∧ '?' ∉ path.toList) (values : Found) :
    (posting path values).path = path.toList := by
  rw [Request.path, resource, posting, Split.first_of_not_mem hpath.1, Split.first_of_not_mem hpath.2]

/-- Whether the body of a request is small enough to be read. -/
def Fits (request : Request) : Prop := request.body.length ≤ 2 ^ 21

instance (request : Request) : Decidable request.Fits :=
  inferInstanceAs (Decidable (request.body.length ≤ 2 ^ 21))

theorem bodyRecord_posting {path : String} {values : Found} {record : α} (hfits : (posting path values).Fits)
    (hmembers : (shape.members.map Member.name).Nodup) (hhas : shape.Has values)
    (hbuild : shape.build values.reverse = .ok record) :
    (posting path values).bodyRecord shape = .ok record := by
  have hheader : (posting path values).header? "content-type" = some "application/json" := by
    simp [header?, posting]
  have hmedia : (MediaType.read "application/json".toList).any MediaType.isJson = true := by decide +kernel
  have hjson : (posting path values).saysJson = true := by
    rw [saysJson, hheader]
    exact hmedia
  have hroom : ¬bodyLimit < (posting path values).body.length := Nat.not_lt.mpr hfits
  simp only [bodyRecord, hjson, hroom, Bool.not_true, Bool.false_eq_true, if_false]
  rw [posting, Body.read_object hmembers hhas hbuild]
  rfl

end Request
end Http

namespace Registration

def values (registration : Registration) : Found :=
  [("username", .text registration.username.toList), ("password", .text registration.password.toList),
    ("full_name", .text registration.fullName.toList), ("email", .text registration.email.toList)]

theorem has_values (registration : Registration) : shape.Has registration.values where
  known := by simp [values, shape, Scalar.IsOf]
  distinct := by simp [values]

theorem build_values (registration : Registration) :
    shape.build registration.values.reverse = .ok registration := by
  simp [shape, values, Found.text, List.lookup, bind, Except.bind, pure, Except.pure]

end Registration

namespace AccountOpening

/-- The values of a request for an account, perhaps with its opening balance. -/
def values (owner currency : String) (balance? : Option Int) : Found :=
  ("owner", .text owner.toList) :: ("currency", .text currency.toList) ::
    (balance?.map fun balance => ("initial_balance", .int balance)).toList

theorem has_values {owner currency : String} {balance? : Option Int}
    (h : ∀ balance ∈ balance?, IntegerRange.signed64.holds balance = true) :
    shape.Has (values owner currency balance?) where
  known := by
    cases balance? with
    | none => simp [values, shape, Scalar.IsOf]
    | some balance => simp [values, shape, Scalar.IsOf, h balance rfl]
  distinct := by cases balance? <;> simp [values]

/-- An opening balance that is not given is zero. -/
theorem build_values (owner currency : String) (balance? : Option Int) :
    shape.build (values owner currency balance?).reverse = .ok ⟨owner, currency, balance?.getD 0⟩ := by
  cases balance? <;>
    simp [shape, values, Found.text, Found.intD, List.lookup, bind, Except.bind, pure, Except.pure]

end AccountOpening

namespace Payment

def values (payment : Payment) : Found :=
  [("from_account_id", .int payment.order.fromAccount), ("to_account_id", .int payment.order.toAccount),
    ("amount", .int payment.order.amount), ("currency", .text payment.currency.toList)]

theorem has_values {payment : Payment} (hfrom : IntegerRange.signed64.holds payment.order.fromAccount = true)
    (hto : IntegerRange.signed64.holds payment.order.toAccount = true)
    (hamount : IntegerRange.signed64.holds payment.order.amount = true) : shape.Has payment.values where
  known := by simp [values, shape, Scalar.IsOf, hfrom, hto, hamount]
  distinct := by simp [values]

theorem build_values (payment : Payment) : shape.build payment.values.reverse = .ok payment := by
  simp [shape, values, Found.text, Found.int, List.lookup, bind, Except.bind, pure, Except.pure]

end Payment
end Passbook

import Passbook.Password
import Passbook.Proofs.Password.Phc

/-!
# Passwords there and back

A new password is stretched into a digest of 32 bytes, whatever its characters and whatever salt was drawn.
The stored string is read as the recipe and the digest that it was written from, so the password matches
the string that was stored for it, and another one does only if it is stretched into the same digest. Nothing
matches a string that is no written form or that lacks its salt or its digest.
-/
namespace Passbook

namespace Blake2b

variable {state : List UInt64}

theorem size_round (block v : Array UInt64) (order : List Nat) : (round block v order).size = v.size := by
  unfold round
  refine List.foldlRecOn (motive := fun w : Array UInt64 => w.size = v.size) _ _ rfl fun w hw step _ => ?_
  simp only [mixAt, Array.size_setIfInBounds, hw]

theorem length_compress (h : state.length = 8) (block : List UInt8) (counted : Nat) (last : Bool) :
    (compress state block counted last).length = 8 := by
  have hrounds (v : Array UInt64) : (orders.foldl (round (words block).toArray) v).size = v.size := by
    refine List.foldlRecOn (motive := fun w : Array UInt64 => w.size = v.size) _ _ rfl fun w hw order _ => ?_
    rw [size_round, hw]
  simp [compress, hrounds, h, initial]

theorem length_absorb (h : state.length = 8) (counted : Nat) (message : List UInt8) :
    (absorb state counted message).length = 8 := by
  induction state, counted, message using absorb.induct with
  | case1 state counted message hshort =>
      rw [absorb, if_pos hshort]
      exact length_compress h _ _ _
  | case2 state counted message hlong ih =>
      rw [absorb, if_neg hlong]
      exact ih (length_compress h _ _ _)

theorem length_digest {size : Nat} (h : size ≤ 64) (message : List UInt8) :
    (digest size message).length = size := by
  have hwords (state : List UInt64) : (state.flatMap wordBytes).length = 8 * state.length := by
    induction state with
    | nil => rfl
    | cons w state ih =>
        rw [List.flatMap_cons, List.length_append, ih, List.length_cons, Nat.mul_succ, Nat.add_comm]
        rfl
  rw [digest, List.length_take, hwords, length_absorb rfl]
  omega

end Blake2b

namespace Argon2

theorem length_tag {size : Nat} (h : size ≤ 64) (variant : Variant) (version : Version) (cost : Cost)
    (password salt extra : List UInt8) :
    (tag variant version cost size password salt extra).length = size := by
  rw [tag, stretch, if_pos h]
  exact Blake2b.length_digest h _

end Argon2

namespace Password

open Argon2 (Variant Version Cost)

variable {salt digest : List UInt8}

/-- Whether a salt is one that stored strings can hold. -/
def IsSalt (salt : List UInt8) : Prop := 8 ≤ salt.length ∧ salt.length ≤ 48

def freshParams : List (List Char × List Char) :=
  [(['m'], Decimal.ofNat 19456), (['t'], Decimal.ofNat 2), (['p'], Decimal.ofNat 1)]

theorem freshParams_eq :
    freshParams = [("m".toList, "19456".toList), ("t".toList, "2".toList), ("p".toList, "1".toList)] := by
  decide +kernel

def fresh (salt digest : List UInt8) : Phc where
  algorithm := "argon2id".toList
  version := some 19
  params := freshParams
  salt := some (Base64.encode salt)
  digest := some digest

theorem fresh_eq (salt digest : List UInt8) : fresh salt digest =
    { algorithm := "argon2id".toList
      version := some 19
      params := [("m".toList, "19456".toList), ("t".toList, "2".toList), ("p".toList, "1".toList)]
      salt := some (Base64.encode salt)
      digest := some digest } := by
  rw [← freshParams_eq]
  rfl

theorem store_freshRecipe (salt digest : List UInt8) : store (freshRecipe salt) digest = fresh salt digest :=
  rfl

theorem wellFormed_fresh (hsalt : IsSalt salt) (hdigest : Phc.IsDigest digest) :
    (fresh salt digest).WellFormed where
  algorithm := (by decide +kernel : Phc.isName "argon2id".toList = true)
  version := by
    intro n hn
    obtain rfl : 19 = n := Option.some.inj hn
    decide
  params := (by decide +kernel :
    ∀ param ∈ freshParams, Phc.isName param.1 = true ∧ Phc.isValue param.2 = true)
  size := (by decide +kernel : (Phc.paramChars freshParams).length ≤ 127)
  salt := by
    rintro _ ⟨⟩
    refine ⟨?_, Base64.isValue_encode hsalt.2⟩
    have := hsalt.1
    rw [Base64.length_encode]
    omega
  digest := by
    rintro _ ⟨⟩
    exact hdigest
  salted := fun _ => rfl
  versioned := nofun

theorem read_fresh (hsalt : IsSalt salt) (hdigest : Phc.IsDigest digest) :
    Phc.read (fresh salt digest).chars = some (fresh salt digest) :=
  Phc.read_eq_some_iff.mpr ⟨wellFormed_fresh hsalt hdigest, rfl⟩

theorem recipe?_mk {algorithm : List Char} {version : Option Nat} {params : List (List Char × List Char)}
    {variant : Variant} {later : Version} {cost : Cost} {extra : List UInt8}
    (hgather : gather defaultCost [] params = some (cost, extra)) (hcost : isPossible cost = true)
    (hvariant : variant? algorithm = some variant) (hversion : version? version = some later)
    (hsalt : 8 ≤ salt.length) (digest : List UInt8) :
    recipe? ⟨algorithm, version, params, some (Base64.encode salt), some digest⟩ =
      some (⟨variant, later, cost, digest.length, salt, extra⟩, digest) := by
  simp only [recipe?, Option.bind_eq_bind, Option.bind_some, hgather, hcost, hvariant, hversion,
    Base64.decode?_encode, Bool.not_true, Bool.false_eq_true, if_false, if_neg (Nat.not_lt.mpr hsalt)]
  rfl

theorem recipe?_fresh (hsalt : IsSalt salt) (hdigest : digest.length = 32) :
    recipe? (fresh salt digest) = some (freshRecipe salt, digest) := by
  have hgather : gather defaultCost [] freshParams = some (defaultCost, []) := by decide +kernel
  have hvariant : variant? "argon2id".toList = some .hybrid := by decide +kernel
  have hversion : version? (some 19) = some .adding := rfl
  have hrecipe := recipe?_mk hgather (by decide) hvariant hversion hsalt.1 digest
  rw [hdigest] at hrecipe
  exact hrecipe

/-- A password matches a stored digest if it is stretched into this digest. -/
theorem verifyWith_fresh (stretch : Stretch) (hsalt : IsSalt salt) (hdigest : digest.length = 32)
    (password : String) : verifyWith stretch password (String.ofList (fresh salt digest).chars) =
      (stretch (freshRecipe salt) (Utf8.encode password.toList) == digest) := by
  have hsize : Phc.IsDigest digest := ⟨by omega, by omega⟩
  rw [verifyWith, String.toList_ofList, read_fresh hsalt hsize, Option.bind_some, recipe?_fresh hsalt hdigest]

/-- Every password matches the string that is stored for it. -/
theorem verify_hash (hsalt : IsSalt salt) (password : String) :
    verify password (hash salt password) = true := by
  have hlength : (argon2 (freshRecipe salt) (Utf8.encode password.toList)).length = 32 :=
    Argon2.length_tag (by decide : 32 ≤ 64) ..
  rw [verify, hash, hashWith, store_freshRecipe, verifyWith_fresh argon2 hsalt hlength]
  exact beq_self_eq_true _

/-- What is not the written form of something with a salt and a digest matches no password. -/
theorem verifyWith_eq_false {stored : String}
    (h : ∀ phc : Phc, phc.WellFormed → stored.toList = phc.chars → phc.salt = none ∨ phc.digest = none)
    (stretch : Stretch) (password : String) : verifyWith stretch password stored = false := by
  have hrecipe : (Phc.read stored.toList).bind recipe? = none := by
    refine Option.bind_eq_none_iff.mpr fun phc hread => ?_
    obtain ⟨hform, hchars⟩ := Phc.read_eq_some_iff.mp hread
    rcases h phc hform hchars with hsalt | hdigest
    · rw [recipe?, hsalt]
      rfl
    · rw [recipe?, hdigest]
      cases phc.salt <;> rfl
  rw [verifyWith, hrecipe]

/-- Whether a string is what is stored for a password: it names the algorithm, the version and the cost of
new digests, it gives back the salt and the digest, the password matches it, and any other password matches
it if and only if it is stretched into the same digest under this salt. -/
structure StoredFor (stretch : Stretch) (salt : List UInt8) (password stored : String) : Prop where
  read : ∃ written, Base64.decode? written = some salt ∧ Phc.read stored.toList = some
    { algorithm := "argon2id".toList
      version := some 19
      params := [("m".toList, "19456".toList), ("t".toList, "2".toList), ("p".toList, "1".toList)]
      salt := some written
      digest := some (stretch (freshRecipe salt) (Utf8.encode password.toList)) }
  recipe : (Phc.read stored.toList).bind recipe? = some
    ({ variant := .hybrid
       version := .adding
       cost := { memory := 19456, passes := 2, lanes := 1 }
       size := 32
       salt := salt
       extra := [] }, stretch (freshRecipe salt) (Utf8.encode password.toList))
  verifies : verifyWith stretch password stored = true
  decides (other : String) : verifyWith stretch other stored = true ↔
    stretch (freshRecipe salt) (Utf8.encode other.toList) =
      stretch (freshRecipe salt) (Utf8.encode password.toList)

/-- Every password matches the string that is stored for it under a salt of 16 bytes, whatever function gives
the 32 bytes of the digests, and no password matches a string that is not well formed or that has no salt or
no digest. -/
theorem stored_digests_decide {stretch : Stretch} {salt : List UInt8} (hsalt : salt.length = 16)
    (hsize : ∀ password, (stretch (freshRecipe salt) password).length = 32) :
    (∀ password : String, StoredFor stretch salt password (hashWith stretch salt password)) ∧
      ∀ stored : String,
        (∀ phc : Phc, phc.WellFormed → stored.toList = phc.chars → phc.salt = none ∨ phc.digest = none) →
          ∀ password, verifyWith stretch password stored = false := by
  have hsalts : IsSalt salt := ⟨by omega, by omega⟩
  refine ⟨fun password => ?_, fun stored h => verifyWith_eq_false h stretch⟩
  have hdigest := hsize (Utf8.encode password.toList)
  have hdigests : Phc.IsDigest (stretch (freshRecipe salt) (Utf8.encode password.toList)) :=
    ⟨by omega, by omega⟩
  have hread := read_fresh hsalts hdigests
  have hmatches (other : String) := verifyWith_fresh stretch hsalts hdigest other
  rw [hashWith, store_freshRecipe]
  refine ⟨⟨Base64.encode salt, Base64.decode?_encode salt, ?_⟩, ?_, ?_, fun other => ?_⟩
  · rw [String.toList_ofList, hread, fresh_eq]
  · rw [String.toList_ofList, hread]
    exact recipe?_fresh hsalts hdigest
  · exact (hmatches password).trans (beq_self_eq_true _)
  · rw [hmatches other, beq_iff_eq]

/-- A salt of 16 bytes, some of which have their highest bit set. -/
def spread : List UInt8 := (List.range 16).map fun n => UInt8.ofNat (17 * n)

/-- A string with a salt but without a digest. -/
def saltOnly : String := "$argon2id$v=19$m=19456,t=2,p=1$ABEiM0RVZneImaq7zN3u/w"

theorem stored_digests_decide_spread :
    spread.length = 16 ∧ (∀ password, (argon2 (freshRecipe spread) password).length = 32) ∧
      verify "pässwörd" (hash spread "pässwörd") = true ∧
      (Phc.read saltOnly.toList).isSome = true ∧ verify "pässwörd" saltOnly = false ∧
      verify "pässwörd" "zz$abcd" = false := by
  have hlength : spread.length = 16 := by decide
  have hsize (password : List UInt8) : (argon2 (freshRecipe spread) password).length = 32 :=
    Argon2.length_tag (by decide : 32 ≤ 64) ..
  obtain ⟨hstored, hrefused⟩ := stored_digests_decide hlength hsize
  have hread : (Phc.read saltOnly.toList).isSome = true := by decide +kernel
  refine ⟨hlength, hsize, (hstored "pässwörd").verifies, hread, hrefused saltOnly ?_ _, hrefused "zz$abcd" ?_ _⟩
  · intro phc hform hchars
    have hphc := Phc.read_eq_some_iff.mpr ⟨hform, hchars⟩
    have hdigest : ((Phc.read saltOnly.toList).bind Phc.digest) = none := by decide +kernel
    rw [hphc] at hdigest
    exact .inr hdigest
  · intro phc hform hchars
    have hphc := Phc.read_eq_some_iff.mpr ⟨hform, hchars⟩
    have hnone : Phc.read "zz$abcd".toList = none := by decide +kernel
    rw [hphc] at hnone
    cases hnone

end Password
end Passbook

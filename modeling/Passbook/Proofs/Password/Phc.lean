import Passbook.Password.Phc
import Passbook.Proofs.Text.Base64
import Passbook.Proofs.Text.Decimal
import Passbook.Proofs.Text.Form

/-!
# PHC strings there and back

A string is read exactly if it is the written form of something well formed, and then it is read as just
this. So every string that is read has one written form: numbers without needless zeros, base64 without
bits that are left over, and its parts in their order. The parts behind the algorithm are up to four
fields, each behind a dollar sign, which are optional and are told apart by their first characters; so a lone
parameter named `v` cannot stand where the version could.
-/
namespace Passbook

namespace Base64

variable {bytes : List UInt8}

theorem not_mem_encode {c : Char} (hc : ¬IsLetter c) : c ∉ encode bytes :=
  fun h => hc (isLetter_encode bytes c h)

theorem isValue_encode (h : bytes.length ≤ 48) : Phc.isValue (encode bytes) = true := by
  have hletters : ∀ c ∈ encode bytes,
      (c.isAlphanum || c == '/' || c == '+' || c == '.' || c == '-') = true := by
    intro c hc
    rcases isLetter_encode bytes c hc with hletter | rfl | rfl
    · simp [hletter]
    · rfl
    · rfl
  rw [Phc.isValue, length_encode, Bool.and_eq_true, decide_eq_true_eq, List.all_eq_true]
  exact ⟨by omega, hletters⟩

end Base64

namespace Phc

/-- Whether a parameter has a name and a value of the characters that these are made of. -/
def IsParam (param : List Char × List Char) : Prop := isName param.1 = true ∧ isValue param.2 = true

def IsSaltText (salt : List Char) : Prop := 4 ≤ salt.length ∧ isValue salt = true

def IsDigest (digest : List UInt8) : Prop := 10 ≤ digest.length ∧ digest.length ≤ 64

/-- What a string can say: every part keeps to its characters and its size, there is no digest without a
salt, and no parameter is taken for a version. -/
structure WellFormed (phc : Phc) : Prop where
  algorithm : isName phc.algorithm = true
  version : ∀ n ∈ phc.version, n < 0x100000000
  params : ∀ param ∈ phc.params, IsParam param
  size : (paramChars phc.params).length ≤ 127
  salt : ∀ salt ∈ phc.salt, IsSaltText salt
  digest : ∀ digest ∈ phc.digest, IsDigest digest
  salted : phc.digest.isSome = true → phc.salt.isSome = true
  versioned : phc.version = none → ∀ value, phc.params ≠ [(['v'], value)]

theorem not_mem_of_isName {s : List Char} (h : isName s = true) : '$' ∉ s ∧ '=' ∉ s ∧ ',' ∉ s := by
  simp only [isName, Bool.and_eq_true, List.all_eq_true] at h
  exact ⟨fun hc => absurd (h.2 _ hc) (by decide), fun hc => absurd (h.2 _ hc) (by decide),
    fun hc => absurd (h.2 _ hc) (by decide)⟩

theorem not_mem_of_isValue {s : List Char} (h : isValue s = true) : '$' ∉ s ∧ '=' ∉ s ∧ ',' ∉ s := by
  simp only [isValue, Bool.and_eq_true, List.all_eq_true] at h
  exact ⟨fun hc => absurd (h.2 _ hc) (by decide), fun hc => absurd (h.2 _ hc) (by decide),
    fun hc => absurd (h.2 _ hc) (by decide)⟩

theorem isValue_ofNat {n : Nat} (h : n < 0x100000000) : isValue (Decimal.ofNat n) = true := by
  have hlength : (Decimal.ofNat n).length ≤ 10 :=
    (Nat.length_toDigits_le_iff (by decide) (by decide)).mpr (Nat.lt_trans h (by decide))
  simp only [isValue, Bool.and_eq_true, decide_eq_true_eq, List.all_eq_true]
  refine ⟨by omega, fun c hc => ?_⟩
  simp [Char.isAlphanum, Decimal.isDigit_ofNat n c hc]

/-- Whether digits have no needless zero in front. -/
theorem form_eq_false_iff {s : List Char} :
    (s.isEmpty || !s.all Char.isDigit || (s.head? == some '0' && decide (1 < s.length))) = false ↔
      s ≠ [] ∧ (∀ c ∈ s, c.isDigit = true) ∧ (s.head? = some '0' → s.length = 1) := by
  cases s with
  | nil => simp
  | cons c rest => simp [List.length_eq_zero_iff]

theorem number?_eq_some_iff {s : List Char} {n : Nat} :
    number? s = some n ↔ n < 0x100000000 ∧ s = Decimal.ofNat n := by
  constructor
  · intro h
    rw [number?] at h
    split at h
    · cases h
    · next hform =>
      obtain ⟨hne, hdigits, hzero⟩ := form_eq_false_iff.mp (Bool.eq_false_iff.mpr hform)
      rw [Decimal.read_digits _ hdigits hne] at h
      split at h
      · next m hread =>
        cases h
        have hstart : ((0 : Nat) : Int) ≤ IntegerRange.unsigned32.high := by decide
        obtain ⟨-, hm, hhigh⟩ := Decimal.eq_of_readUp hstart hread
        rw [hm] at hhigh ⊢
        exact ⟨Int.ofNat_lt.mp (Int.lt_of_le_of_lt hhigh (by decide)),
          (Decimal.ofNat_value hdigits hne hzero).symm⟩
      · cases h
  · rintro ⟨hn, rfl⟩
    have hrange : IntegerRange.unsigned32.holds n = true := by
      have hhigh : (n : Int) ≤ 0xffffffff := by omega
      simp [IntegerRange.holds, IntegerRange.unsigned32, hhigh]
    have hread : Decimal.read .unsigned32 (Decimal.ofNat n) = .ok (n : Int) :=
      Decimal.read_ofInt (n := .ofNat n) hrange
    have hzero : (Decimal.ofNat n).head? = some '0' → (Decimal.ofNat n).length = 1 := by
      intro hhead
      rcases Nat.eq_zero_or_pos n with rfl | hpos
      · rfl
      · obtain ⟨c, rest, hdigits, hc⟩ := Decimal.ofNat_eq_cons_of_pos hpos
        rw [hdigits] at hhead
        exact absurd (Option.some.inj hhead) hc
    have hform := (form_eq_false_iff (s := Decimal.ofNat n)).mpr
      ⟨Nat.toDigits_ne_nil, Decimal.isDigit_ofNat n, hzero⟩
    rw [number?, if_neg (Bool.eq_false_iff.mp hform), hread]
    rfl

def versionFields : Option Nat → List (List Char)
  | none => []
  | some n => ['v' :: '=' :: Decimal.ofNat n]

def paramFields (params : List (List Char × List Char)) : List (List Char) :=
  if params.isEmpty then [] else [paramChars params]

def endFields (salt : Option (List Char)) (digest : Option (List UInt8)) : List (List Char) :=
  salt.toList ++ digest.toList.map Base64.encode

theorem chars_eq (phc : Phc) : phc.chars = (phc.algorithm :: (versionFields phc.version ++
    (paramFields phc.params ++ endFields phc.salt phc.digest))).flatMap ('$' :: ·) := by
  obtain ⟨algorithm, version, params, salt, digest⟩ := phc
  cases version <;> cases salt <;> cases digest <;> cases hparams : params.isEmpty <;>
    simp [chars, versionFields, paramFields, endFields, hparams]

/-- Whether a field would be read as a version. -/
def IsVersionField (field : List Char) : Prop := ∃ value, field = 'v' :: '=' :: value ∧ ',' ∉ value

theorem takeVersion_eq_some_iff {fields rest : List (List Char)} {version : Option Nat} :
    takeVersion fields = some (version, rest) ↔ fields = versionFields version ++ rest ∧
      (∀ n ∈ version, n < 0x100000000) ∧ (version = none → ∀ field ∈ rest.head?, ¬IsVersionField field) := by
  constructor
  · intro h
    unfold takeVersion at h
    split at h
    · next value more =>
      split at h
      · next hcomma =>
        cases h
        refine ⟨rfl, nofun, ?_⟩
        rintro - _ ⟨⟩ ⟨value', heq, hvalue⟩
        cases heq
        exact hvalue (by simpa using hcomma)
      · split at h
        · obtain ⟨n, hn, heq⟩ := Option.map_eq_some_iff.mp h
          obtain ⟨hlt, rfl⟩ := number?_eq_some_iff.mp hn
          cases heq
          refine ⟨rfl, ?_, nofun⟩
          rintro _ ⟨⟩
          exact hlt
        · cases h
    · next hother =>
      cases h
      refine ⟨rfl, nofun, ?_⟩
      rintro - field hfield ⟨value, rfl, -⟩
      obtain ⟨more, rfl⟩ := List.head?_eq_some_iff.mp hfield
      exact hother _ _ rfl
  · rintro ⟨rfl, hversion, hrest⟩
    cases version with
    | some n =>
        have hlt := hversion n rfl
        have hcomma : ',' ∉ Decimal.ofNat n := (not_mem_of_isValue (isValue_ofNat hlt)).2.2
        rw [versionFields, List.singleton_append, takeVersion, if_neg (by simpa using hcomma),
          if_pos (isValue_ofNat hlt), number?_eq_some_iff.mpr ⟨hlt, rfl⟩]
        rfl
    | none =>
        rw [versionFields, List.nil_append]
        unfold takeVersion
        split
        · next value more =>
          have hcomma : ',' ∈ value :=
            Decidable.not_not.mp fun hcomma => hrest rfl _ rfl ⟨value, rfl, hcomma⟩
          rw [if_pos (by simpa using hcomma)]
        · rfl

def pairChars (param : List Char × List Char) : List Char := param.1 ++ '=' :: param.2

theorem paramChars_cons (param : List Char × List Char) (params : List (List Char × List Char)) :
    paramChars (param :: params) = pairChars param ++ (params.map pairChars).flatMap (',' :: ·) := by
  induction params generalizing param with
  | nil => simp [paramChars, pairChars]
  | cons next params ih =>
      rw [paramChars, ih, List.map_cons, List.flatMap_cons]
      simp [pairChars]

theorem IsParam.not_mem_pairChars {param : List Char × List Char} (h : IsParam param) :
    '$' ∉ pairChars param ∧ ',' ∉ pairChars param := by
  obtain ⟨hdollar, -, hcomma⟩ := not_mem_of_isName h.1
  obtain ⟨hdollar', -, hcomma'⟩ := not_mem_of_isValue h.2
  simp [pairChars, hdollar, hdollar', hcomma, hcomma']

def pair? (pair : List Char) : Option (List Char × List Char) :=
  match Split.all '=' pair with
  | [name, value] => if isName name && isValue value then some (name, value) else none
  | _ => none

theorem pair?_eq_some_iff {pair : List Char} {param : List Char × List Char} :
    pair? pair = some param ↔ IsParam param ∧ pair = pairChars param := by
  constructor
  · intro h
    unfold pair? at h
    split at h
    · next name value hsplit =>
      split at h
      · next hform =>
        rw [Bool.and_eq_true] at hform
        obtain ⟨hjoined, -⟩ := Split.all_eq_cons_iff.mp hsplit
        cases h
        exact ⟨hform, by simpa [pairChars] using hjoined⟩
      · cases h
    · cases h
  · rintro ⟨⟨hname, hvalue⟩, rfl⟩
    have hsplit : Split.all '=' (pairChars param) = [param.1, param.2] := by
      refine Split.all_eq_cons_iff.mpr ⟨by simp [pairChars], ?_⟩
      simp only [List.forall_mem_cons]
      exact ⟨(not_mem_of_isName hname).2.1, (not_mem_of_isValue hvalue).2.1, List.forall_mem_nil _⟩
    rw [pair?, hsplit]
    exact if_pos (by rw [hname, hvalue]; rfl)

theorem mapM_pair?_eq_some_iff {pairs : List (List Char)} {params : List (List Char × List Char)} :
    pairs.mapM pair? = some params ↔ (∀ param ∈ params, IsParam param) ∧ pairs = params.map pairChars := by
  induction pairs generalizing params with
  | nil => cases params <;> simp
  | cons pair pairs ih =>
      rw [List.mapM_cons]
      simp only [Option.bind_eq_bind, Option.bind_eq_some_iff, Option.pure_def, Option.some.injEq]
      constructor
      · rintro ⟨param, hparam, more, hmore, rfl⟩
        obtain ⟨hform, rfl⟩ := pair?_eq_some_iff.mp hparam
        obtain ⟨hforms, rfl⟩ := ih.mp hmore
        exact ⟨List.forall_mem_cons.mpr ⟨hform, hforms⟩, rfl⟩
      · rintro ⟨hforms, heq⟩
        cases params with
        | nil => cases heq
        | cons param more =>
            obtain ⟨hform, hforms⟩ := List.forall_mem_cons.mp hforms
            obtain ⟨hpair, hpairs⟩ := List.cons.inj heq
            exact ⟨param, pair?_eq_some_iff.mpr ⟨hform, hpair⟩, more, ih.mpr ⟨hforms, hpairs⟩, rfl⟩

theorem params?_eq_some_iff {field : List Char} {params : List (List Char × List Char)} :
    params? field = some params ↔ params ≠ [] ∧ (∀ param ∈ params, IsParam param) ∧
      (paramChars params).length ≤ 127 ∧ field = paramChars params := by
  have hread : params? field = if 127 < field.length then none else (Split.all ',' field).mapM pair? := rfl
  rw [hread]
  constructor
  · intro h
    split at h
    · cases h
    · next hlength =>
      obtain ⟨hforms, hsplit⟩ := mapM_pair?_eq_some_iff.mp h
      cases params with
      | nil => exact absurd hsplit (Split.all_ne_nil _ _)
      | cons param params =>
          obtain ⟨hjoined, -⟩ := Split.all_eq_cons_iff.mp hsplit
          rw [← paramChars_cons] at hjoined
          exact ⟨List.cons_ne_nil _ _, hforms, hjoined ▸ Nat.not_lt.mp hlength, hjoined⟩
  · rintro ⟨hne, hforms, hlength, rfl⟩
    rw [if_neg (Nat.not_lt.mpr hlength), mapM_pair?_eq_some_iff]
    cases params with
    | nil => exact absurd rfl hne
    | cons param params =>
        refine ⟨hforms, Split.all_eq_cons_iff.mpr ⟨paramChars_cons .., ?_⟩⟩
        rw [← List.map_cons, List.forall_mem_map]
        exact fun param hparam => (hforms param hparam).not_mem_pairChars.2

theorem takeParams_eq_some_iff {fields rest : List (List Char)} {params : List (List Char × List Char)} :
    takeParams fields = some (params, rest) ↔ fields = paramFields params ++ rest ∧
      (∀ param ∈ params, IsParam param) ∧ (paramChars params).length ≤ 127 ∧
      (params = [] → ∀ field ∈ rest.head?, '=' ∉ field) := by
  constructor
  · intro h
    unfold takeParams at h
    split at h
    · cases h
      exact ⟨rfl, List.forall_mem_nil _, by decide, fun _ => nofun⟩
    · next field more =>
      split at h
      · obtain ⟨params', hparams, heq⟩ := Option.map_eq_some_iff.mp h
        cases heq
        obtain ⟨hne, hforms, hlength, rfl⟩ := params?_eq_some_iff.mp hparams
        refine ⟨?_, hforms, hlength, fun hnil => absurd hnil hne⟩
        rw [paramFields, if_neg (by simpa using hne)]
        rfl
      · next hequals =>
        cases h
        refine ⟨rfl, List.forall_mem_nil _, by decide, ?_⟩
        rintro - _ ⟨⟩
        simpa using hequals
  · rintro ⟨rfl, hforms, hlength, hrest⟩
    cases params with
    | nil =>
        cases rest with
        | nil => rfl
        | cons field rest =>
            have hequals : '=' ∉ field := hrest rfl field rfl
            exact if_neg (by simpa using hequals)
    | cons param params =>
        have hequals : '=' ∈ paramChars (param :: params) := by
          rw [paramChars_cons, pairChars]
          simp
        have hread := params?_eq_some_iff.mpr ⟨List.cons_ne_nil param params, hforms, hlength, rfl⟩
        have hfields : paramFields (param :: params) ++ rest = paramChars (param :: params) :: rest := rfl
        rw [hfields, takeParams, if_pos (by simpa using hequals), hread]
        rfl

theorem salt?_eq_some_iff {field salt : List Char} :
    salt? field = some salt ↔ IsSaltText salt ∧ field = salt := by
  unfold salt?
  split
  · next h =>
    rw [Bool.and_eq_true, decide_eq_true_eq] at h
    constructor
    · rintro ⟨⟩
      exact ⟨h, rfl⟩
    · rintro ⟨-, rfl⟩
      rfl
  · next h =>
    rw [Bool.and_eq_true, decide_eq_true_eq] at h
    constructor
    · nofun
    · rintro ⟨hsalt, rfl⟩
      exact absurd hsalt h

theorem digest?_eq_some_iff {field : List Char} {digest : List UInt8} :
    digest? field = some digest ↔ IsDigest digest ∧ field = Base64.encode digest := by
  simp only [digest?, Option.bind_eq_bind, Option.bind_eq_some_iff, Base64.decode?_eq_some_iff]
  constructor
  · rintro ⟨bytes, rfl, h⟩
    split at h
    · next hsize =>
      cases h
      rw [Bool.and_eq_true, decide_eq_true_eq, decide_eq_true_eq] at hsize
      exact ⟨hsize, rfl⟩
    · cases h
  · rintro ⟨hsize, rfl⟩
    refine ⟨digest, rfl, if_pos ?_⟩
    rwa [Bool.and_eq_true, decide_eq_true_eq, decide_eq_true_eq]

theorem takeEnd_eq_some_iff {fields : List (List Char)} {salt : Option (List Char)}
    {digest : Option (List UInt8)} :
    takeEnd fields = some (salt, digest) ↔ fields = endFields salt digest ∧ (∀ s ∈ salt, IsSaltText s) ∧
      (∀ d ∈ digest, IsDigest d) ∧ (digest.isSome = true → salt.isSome = true) := by
  constructor
  · intro h
    unfold takeEnd at h
    split at h
    · cases h
      exact ⟨rfl, nofun, nofun, nofun⟩
    · obtain ⟨salt', hsalt, heq⟩ := Option.bind_eq_some_iff.mp h
      cases heq
      obtain ⟨hform, rfl⟩ := salt?_eq_some_iff.mp hsalt
      refine ⟨rfl, ?_, nofun, nofun⟩
      rintro _ ⟨⟩
      exact hform
    · obtain ⟨salt', hsalt, h⟩ := Option.bind_eq_some_iff.mp h
      obtain ⟨digest', hdigest, heq⟩ := Option.bind_eq_some_iff.mp h
      cases heq
      obtain ⟨hform, rfl⟩ := salt?_eq_some_iff.mp hsalt
      obtain ⟨hsize, rfl⟩ := digest?_eq_some_iff.mp hdigest
      refine ⟨rfl, ?_, ?_, fun _ => rfl⟩
      · rintro _ ⟨⟩
        exact hform
      · rintro _ ⟨⟩
        exact hsize
    · cases h
  · rintro ⟨rfl, hsalt, hdigest, hsalted⟩
    cases salt with
    | none =>
        cases digest with
        | none => rfl
        | some digest => cases hsalted rfl
    | some salt =>
        have hread := salt?_eq_some_iff.mpr ⟨hsalt salt rfl, rfl⟩
        cases digest with
        | none =>
            have hfields : endFields (some salt) none = [salt] := rfl
            rw [hfields, takeEnd, hread]
            rfl
        | some digest =>
            have hfields : endFields (some salt) (some digest) = [salt, Base64.encode digest] := rfl
            rw [hfields, takeEnd, hread, digest?_eq_some_iff.mpr ⟨hdigest digest rfl, rfl⟩]
            rfl

def fields (phc : Phc) : List (List Char) :=
  versionFields phc.version ++ (paramFields phc.params ++ endFields phc.salt phc.digest)

namespace WellFormed

variable {phc : Phc}

/-- What stands behind the parameters is not taken for parameters. -/
theorem equals_not_mem (h : phc.WellFormed) : ∀ field ∈ (endFields phc.salt phc.digest).head?, '=' ∉ field := by
  have hsalt := h.salt
  have hsalted := h.salted
  cases hcase : phc.salt with
  | none =>
      rw [hcase] at hsalted
      cases hdigest : phc.digest with
      | none => nofun
      | some digest =>
          rw [hdigest] at hsalted
          cases hsalted rfl
  | some salt =>
      rintro _ ⟨⟩
      exact (not_mem_of_isValue (hsalt salt hcase).2).2.1

/-- What stands behind the version is not taken for a version. -/
theorem not_isVersionField (h : phc.WellFormed) (hversion : phc.version = none) :
    ∀ field ∈ (paramFields phc.params ++ endFields phc.salt phc.digest).head?, ¬IsVersionField field := by
  have hlone := h.versioned hversion
  have hforms := h.params
  rintro field hfield ⟨value, rfl, hcomma⟩
  cases hparams : phc.params with
  | nil =>
      rw [hparams] at hfield
      exact h.equals_not_mem _ hfield (by simp)
  | cons param params =>
      rw [hparams] at hfield hlone hforms
      have heq : paramChars (param :: params) = 'v' :: '=' :: value := Option.some.inj hfield
      obtain ⟨⟨hname, -⟩, -⟩ := List.forall_mem_cons.mp hforms
      have hequals := (not_mem_of_isName hname).2.1
      rw [paramChars_cons, pairChars, List.append_assoc, List.cons_append] at heq
      have hfirst := congrArg (Split.first '=') heq
      rw [Split.first_append hequals, show Split.first '=' ('v' :: '=' :: value) = (['v'], value) from rfl] at hfirst
      obtain ⟨hv, rfl⟩ := Prod.mk.inj hfirst
      -- A second parameter would stand behind a comma.
      cases params with
      | nil => exact hlone param.2 (by rw [← hv])
      | cons next params => exact hcomma (by simp)

/-- No field has a dollar sign. -/
theorem dollar_not_mem (h : phc.WellFormed) : ∀ field ∈ phc.algorithm :: phc.fields, '$' ∉ field := by
  have hversion : ∀ field ∈ versionFields phc.version, '$' ∉ field := by
    have hlt := h.version
    cases hcase : phc.version with
    | none => exact List.forall_mem_nil _
    | some n =>
        have := (not_mem_of_isValue (isValue_ofNat (hlt n hcase))).1
        simp [versionFields, this]
  have hparams : ∀ field ∈ paramFields phc.params, '$' ∉ field := by
    have hforms := h.params
    cases hcase : phc.params with
    | nil => exact List.forall_mem_nil _
    | cons param params =>
        rw [hcase, List.forall_mem_cons] at hforms
        have hfirst := hforms.1.not_mem_pairChars.1
        have hmore : '$' ∉ (params.map pairChars).flatMap (',' :: ·) := by
          simp only [List.mem_flatMap, List.mem_map, not_exists, not_and]
          rintro _ ⟨other, hother, rfl⟩
          simp [(hforms.2 other hother).not_mem_pairChars.1]
        refine List.forall_mem_singleton.mpr ?_
        rw [paramChars_cons, List.mem_append, not_or]
        exact ⟨hfirst, hmore⟩
  have hend : ∀ field ∈ endFields phc.salt phc.digest, '$' ∉ field := by
    refine List.forall_mem_append.mpr ⟨fun salt hsalt => ?_, fun field hfield => ?_⟩
    · exact (not_mem_of_isValue (h.salt salt (Option.mem_toList.mp hsalt)).2).1
    · obtain ⟨digest, -, rfl⟩ := List.mem_map.mp hfield
      exact Base64.not_mem_encode (by decide)
  rw [List.forall_mem_cons, fields, List.forall_mem_append, List.forall_mem_append]
  exact ⟨(not_mem_of_isName h.algorithm).1, hversion, hparams, hend⟩

end WellFormed

/-- A string is read as just what it is the written form of. -/
theorem read_eq_some_iff {s : List Char} {phc : Phc} : read s = some phc ↔ phc.WellFormed ∧ s = phc.chars := by
  constructor
  · intro h
    unfold read at h
    split at h
    · next algorithm behind hsplit =>
      split at h
      · cases h
      · next hname =>
        simp only [Option.bind_eq_bind, Option.bind_eq_some_iff] at h
        obtain ⟨⟨version, behindVersion⟩, hversion, ⟨params, behindParams⟩, hparams, ⟨salt, digest⟩, hend, heq⟩ := h
        cases heq
        obtain ⟨rfl, hbelow, hnoVersion⟩ := takeVersion_eq_some_iff.mp hversion
        obtain ⟨rfl, hforms, hsize, -⟩ := takeParams_eq_some_iff.mp hparams
        obtain ⟨rfl, hsalt, hdigest, hsalted⟩ := takeEnd_eq_some_iff.mp hend
        have hlone (hnone : version = none) (value : List Char) : params ≠ [(['v'], value)] := by
          rintro rfl
          have hvalue := (List.forall_mem_singleton.mp hforms).2
          exact hnoVersion hnone _ rfl ⟨value, rfl, (not_mem_of_isValue hvalue).2.2⟩
        refine ⟨⟨by simpa using hname, hbelow, hforms, hsize, hsalt, hdigest, hsalted, hlone⟩, ?_⟩
        rw [chars_eq]
        exact (Split.all_eq_cons_iff.mp hsplit).1
    · cases h
  · rintro ⟨h, rfl⟩
    have hsplit : Split.all '$' phc.chars = [] :: phc.algorithm :: phc.fields := by
      refine Split.all_eq_cons_iff.mpr ⟨chars_eq phc, List.forall_mem_cons.mpr ⟨List.not_mem_nil, ?_⟩⟩
      exact h.dollar_not_mem
    have hversion := takeVersion_eq_some_iff.mpr ⟨rfl, h.version, h.not_isVersionField⟩
    have hparams := takeParams_eq_some_iff.mpr ⟨rfl, h.params, h.size, fun _ => h.equals_not_mem⟩
    have hend := takeEnd_eq_some_iff.mpr ⟨rfl, h.salt, h.digest, h.salted⟩
    simp only [read, hsplit, h.algorithm, fields, hversion, hparams, hend, Bool.not_true, Bool.false_eq_true,
      if_false, Option.bind_eq_bind, Option.bind_some]
    rfl

end Phc
end Passbook

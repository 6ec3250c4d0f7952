import Passbook.Proofs.Text.Form
import Passbook.Proofs.Url.Host

/-!
# Where the query of a URL stands

A written URL is cut at its first number sign, and what is in front of that at its first question mark.
Both marks are escaped while a URL is read, wherever they would be taken for one of these two. So the
cuts give the query and the fragment that the URL has, also after pairs have been put into its query.
-/
namespace Passbook

namespace Percent

def escapeChars : List Char := "%0123456789ABCDEF".toList

theorem mem_encode {special : UInt8 → Bool} {bytes : List UInt8} {c : Char} (h : c ∈ encode special bytes) :
    c ∈ escapeChars ∨ ∃ b ∈ bytes, b.toNat < 128 ∧ special b = false ∧ c = Char.ofNat b.toNat := by
  obtain ⟨b, hb, h⟩ := List.mem_flatMap.mp h
  split at h
  · next hkept =>
    simp only [Bool.and_eq_true, decide_eq_true_eq, Bool.not_eq_true'] at hkept
    exact .inr ⟨b, hb, hkept.1, hkept.2, List.mem_singleton.mp h⟩
  · have hdigit : ∀ n < 16, Hex.upperDigit n ∈ escapeChars := by decide
    have hlt := b.toNat_lt
    simp only [escape, List.mem_cons, List.not_mem_nil, or_false] at h
    rcases h with rfl | rfl | rfl
    · exact .inl (by decide)
    · exact .inl (hdigit _ (by omega))
    · exact .inl (hdigit _ (by omega))

end Percent

namespace Url

section Escape
variable {special : UInt8 → Bool} {s : List Char}

/-- An escaped text has characters of escapes, and those characters of the text that stand for
themselves. -/
theorem mem_escape {c : Char} (h : c ∈ escape special s) :
    c ∈ Percent.escapeChars ∨ c ∈ s ∧ special (UInt8.ofNat c.toNat) = false := by
  rcases Percent.mem_encode h with h | ⟨b, hb, hascii, hspecial, rfl⟩
  · exact .inl h
  · refine .inr ⟨Utf8.mem_of_mem_encode hb hascii, ?_⟩
    rw [Utf8.toNat_char_of_lt _ (by omega), UInt8.ofNat_toNat, hspecial]

theorem escape_continues (h : ∀ c ∈ s, endsPath c = true → special (UInt8.ofNat c.toNat) = true) :
    Continues (escape special s) := by
  have hescape : Continues Percent.escapeChars := .of_all (by decide)
  intro c hc
  rcases mem_escape hc with hc | ⟨hc, hspecial⟩
  · exact hescape c hc
  · refine Bool.eq_false_iff.mpr fun hends => ?_
    rw [h c hc hends] at hspecial
    cases hspecial

theorem Continues.escape (h : Continues s) : Continues (escape special s) :=
  escape_continues fun c hc hends => absurd hends (Bool.eq_false_iff.mp (h c hc))

/-- Where the marks are among what is escaped, nothing that is escaped has them. -/
theorem escape_continues_of_special (hquestion : special 0x3F = true) (hnumber : special 0x23 = true) :
    Continues (Url.escape special s) := by
  refine escape_continues fun c _ hends => ?_
  rcases endsPath_eq_true.mp hends with rfl | rfl
  · exact hquestion
  · exact hnumber

end Escape

section Path
variable {kind : Kind}

theorem mem_of_mem_shorten {segments : List (List Char)} :
    ∀ segment ∈ shorten kind segments, segment ∈ segments := by
  intro segment h
  unfold shorten at h
  split at h
  · split at h
    · exact h
    · cases h
  · exact List.dropLast_subset _ h

theorem driveLetter_continues {piece : List Char} (h : isDriveLetter piece = true) :
    Continues (piece.take 1 ++ [':']) := by
  unfold isDriveLetter at h
  split at h
  · rw [Bool.and_eq_true] at h
    exact .cons (endsPath_eq_false (by decide) (by decide) h.1) (.cons rfl .nil)
  · cases h

theorem resolve_continues {done : List (List Char)} (pieces : List (List Char))
    (h : ∀ segment ∈ done, Continues segment) : ∀ segment ∈ resolve kind done pieces, Continues segment := by
  have hadd {done : List (List Char)} {last : List Char} (h : ∀ segment ∈ done, Continues segment)
      (hlast : Continues last) : ∀ segment ∈ done ++ [last], Continues segment :=
    List.forall_mem_append.mpr ⟨h, List.forall_mem_singleton.mpr hlast⟩
  induction pieces generalizing done with
  | nil => exact h
  | cons piece pieces ih =>
      refine ih ?_
      have habove : ∀ segment ∈ shorten kind done, Continues segment :=
        fun segment hsegment => h segment (mem_of_mem_shorten segment hsegment)
      split
      · split
        · exact hadd habove .nil
        · exact habove
      · split
        · split
          · exact hadd h .nil
          · exact h
        · split
          · next hdrive =>
            simp only [Bool.and_eq_true] at hdrive
            exact List.forall_mem_singleton.mpr (driveLetter_continues hdrive.2)
          · exact hadd h (escape_continues_of_special (by decide) (by decide))

theorem mem_of_mem_dropEmptyFront {segments : List (List Char)} :
    ∀ segment ∈ dropEmptyFront segments, segment ∈ segments := by
  induction segments using dropEmptyFront.induct with
  | case1 next rest ih => exact fun segment h => List.mem_cons_of_mem _ (ih segment h)
  | case2 segments hother =>
      intro segment h
      rwa [dropEmptyFront] at h
      exact hother

theorem readPath_continues (text : List Char) : ∀ segment ∈ readPath kind text, Continues segment := by
  unfold readPath
  dsimp only
  split
  · split
    · exact List.forall_mem_singleton.mpr .nil
    · exact List.forall_mem_nil _
  · split
    · exact fun segment h => resolve_continues _ (List.forall_mem_nil _) segment
        (mem_of_mem_dropEmptyFront segment h)
    · exact resolve_continues _ (List.forall_mem_nil _)

end Path

end Url

def UrlPath.parts : UrlPath → List (List Char)
  | .plain text => [text]
  | .segments list => list

namespace Url

/-- A URL with no mark in front of its query that would begin or end the query, and with no mark in its
query that would end it. -/
structure Placed (url : Url) : Prop where
  scheme : Continues url.scheme
  username : Continues url.username
  password : Continues url.password
  host : ∀ host ∈ url.host, Continues host.chars
  path : ∀ part ∈ url.path.parts, Continues part
  query : ∀ query ∈ url.query, '#' ∉ query

theorem readEnd_query {special : Bool} {s : List Char} : ∀ query ∈ (readEnd special s).1, '#' ∉ query := by
  intro query hquery hmem
  unfold readEnd at hquery
  dsimp only at hquery
  split at hquery
  · cases hquery
    rcases mem_escape hmem with hescape | ⟨htext, -⟩
    · exact absurd hescape (by decide)
    · exact absurd (List.all_eq_true.mp List.all_takeWhile _ htext) (by decide)
  · cases hquery

theorem takeWhile_continues (s : List Char) : Continues (s.takeWhile (!endsPath ·)) :=
  fun c hc => by simpa using List.all_eq_true.mp List.all_takeWhile c hc

theorem readTail_placed {kind : Kind} {front : UrlPath → Url} {s : List Char}
    (h : ∀ path : UrlPath, (∀ part ∈ path.parts, Continues part) → (front path).Placed) :
    (readTail kind front s).Placed :=
  let hfront := h (.segments (readPath kind (s.takeWhile (!endsPath ·)))) (readPath_continues _)
  { hfront with query := readEnd_query }

theorem Placed.at_host {url : Url} {host : Host} (h : url.Placed) (hhost : Continues host.chars) :
    { url with host := some host }.Placed :=
  { h with host := fun _ heq => Option.some.inj heq ▸ hhost }

end Url

open Url (Continues endsPath_eq_false)

theorem Host.readPlain_continues {s : List Char} {host : Host} (h : Host.readPlain s = .ok host) :
    Continues host.chars := by
  unfold Host.readPlain at h
  split at h
  · exact Host.bracketed_continues h
  · split at h
    · cases h
    · next hforbidden =>
      cases h
      have hcontinues : Continues s := by
        intro c hc
        refine endsPath_eq_false (p := fun c => !Host.isForbidden c) (by decide) (by decide) ?_
        simp only [List.any_eq_true, not_exists, not_and, Bool.not_eq_true] at hforbidden
        rw [hforbidden c hc]
        rfl
      exact hcontinues.escape

namespace Url

/-- Whatever a reader gives satisfies `p`. -/
def Yields {α : Type} (p : α → Prop) (read : Except UrlFault α) : Prop := ∀ value, read = .ok value → p value

namespace Yields

variable {α β : Type} {p : α → Prop} {q : β → Prop}

theorem ok {value : α} (h : p value) : Yields p (.ok value) := fun _ heq => Except.ok.inj heq ▸ h

theorem error {fault : UrlFault} : Yields p (.error fault) := fun _ heq => nomatch heq

theorem bind {part : Except UrlFault α} {next : α → Except UrlFault β} (hpart : Yields p part)
    (hnext : ∀ value, p value → Yields q (next value)) : Yields q (part >>= next) := by
  cases part with
  | error fault => exact error
  | ok value => exact hnext value (hpart value rfl)

end Yields

theorem readHostPort_yields (kind : Kind) (scheme s : List Char) :
    Yields (fun read => Continues read.1.chars) (readHostPort kind scheme s) := by
  unfold readHostPort
  dsimp only
  split
  · exact .error
  · split
    case' isTrue => refine Yields.bind (p := fun host => Continues host.chars) (fun _ => Host.read_continues) ?_
    case' isFalse =>
      refine Yields.bind (p := fun host => Continues host.chars) (fun _ => Host.readPlain_continues) ?_
    all_goals
      intro host hhost
      split
      · split
        · exact .error
        · exact Yields.bind (p := fun _ => True) (fun _ _ => trivial) fun _ _ => .ok hhost
      · exact .ok hhost

structure Authority.Placed (authority : Authority) : Prop where
  username : Continues authority.username
  password : Continues authority.password
  host : Continues authority.host.chars

theorem readAuthority_yields (kind : Kind) (scheme s : List Char) :
    Yields (fun read => read.1.Placed) (readAuthority kind scheme s) := by
  unfold readAuthority
  dsimp only
  split
  · exact (readHostPort_yields kind scheme s).bind fun _ hhost => .ok ⟨.nil, .nil, hhost⟩
  · split
    · exact .error
    · refine (readHostPort_yields kind scheme _).bind fun read hhost => ?_
      split
      · exact .error
      · exact .ok ⟨escape_continues_of_special (by decide) (by decide),
          escape_continues_of_special (by decide) (by decide), hhost⟩

section Scheme
variable {scheme : List Char}

theorem readHosted_yields (kind : Kind) (hscheme : Continues scheme) (s : List Char) :
    Yields Placed (readHosted kind scheme s) := by
  refine (readAuthority_yields kind scheme s).bind fun read hread => .ok ?_
  exact readTail_placed fun path hpath =>
    { scheme := hscheme
      username := hread.username
      password := hread.password
      host := fun _ heq => Option.some.inj heq ▸ hread.host
      path := hpath
      query := nofun }

theorem readFile_yields (hscheme : Continues scheme) (s : List Char) : Yields Placed (readFile scheme s) := by
  have hfront {host : Host} (hhost : Continues host.chars) (rest : List Char) :
      (readTail .file (fun path => { scheme, host := some host, path }) rest).Placed :=
    readTail_placed fun path hpath =>
      { scheme := hscheme
        username := .nil
        password := .nil
        host := fun _ heq => Option.some.inj heq ▸ hhost
        path := hpath
        query := nofun }
  have hempty : Continues (Host.domain []).chars := .nil
  unfold readFile
  dsimp only
  split
  · split
    · split
      · exact .ok (hfront hempty _)
      · split
        · exact .ok (hfront hempty _)
        · refine Yields.bind (p := fun host => Continues host.chars) (fun _ => Host.read_continues) ?_
          intro host hhost
          have hhost : Continues (if host = .domain "localhost".toList then .domain [] else host).chars := by
            split <;> assumption
          have hurl := hfront hhost
          split
          · split
            · exact .ok ((hurl _).at_host hempty)
            · exact .ok (hurl _)
          · exact .ok (hurl _)
    · exact .ok (hfront hempty _)
  · exact .ok (hfront hempty _)

theorem readPlain_placed (hscheme : Continues scheme) (s : List Char) : (readPlain scheme s).Placed := by
  unfold readPlain
  split
  · exact readTail_placed fun path hpath => ⟨hscheme, .nil, .nil, nofun, hpath, nofun⟩
  · exact
      { scheme := hscheme
        username := .nil
        password := .nil
        host := nofun
        path := List.forall_mem_singleton.mpr (takeWhile_continues s).escape
        query := readEnd_query }

theorem toLower_continues {c : Char} (h : isSchemeChar c = true) : endsPath c.toLower = false := by
  have hletter : ∀ n < 91, 65 ≤ n → endsPath (Char.ofNat n).toLower = false := by decide
  by_cases hupper : 65 ≤ c.toNat ∧ c.toNat ≤ 90
  · rw [← Char.ofNat_toNat c]
    exact hletter c.toNat (by omega) hupper.1
  · have hlower : c.toLower = c := dif_neg hupper
    rw [hlower]
    exact endsPath_eq_false (by decide) (by decide) h

theorem takeScheme_continues {s rest : List Char} (h : takeScheme s = some (scheme, rest)) :
    Continues scheme := by
  unfold takeScheme at h
  split at h
  · cases h
  · split at h
    · split at h
      · cases h
        intro lower hlower
        obtain ⟨c, hc, rfl⟩ := List.mem_map.mp hlower
        exact toLower_continues (List.all_eq_true.mp List.all_takeWhile c hc)
      · cases h
    · cases h

end Scheme

/-- The parts of every URL that can be read keep to their places. -/
theorem read_placed {input : List Char} {url : Url} (h : read input = .ok url) : url.Placed := by
  unfold read at h
  split at h
  · cases h
  · next scheme rest hscheme =>
    have hcontinues := takeScheme_continues hscheme
    split at h
    · exact readHosted_yields .web hcontinues _ url h
    · exact readFile_yields hcontinues _ url h
    · split at h
      · exact readHosted_yields .other hcontinues _ url h
      · cases h
        exact readPlain_placed hcontinues rest

/-- The query of a written URL: what is behind the first question mark, up to the first number sign. -/
def queryText (link : List Char) : Option (List Char) :=
  (Split.first? '?' (Split.first '#' link).1).map Prod.snd

/-- The fragment of a written URL: what is behind the first number sign. -/
def fragmentText (link : List Char) : Option (List Char) := (Split.first? '#' link).map Prod.snd

namespace Continues

variable {s : List Char}

theorem question_not_mem (h : Continues s) : '?' ∉ s := fun hmem => absurd (h _ hmem) (by decide)

theorem number_not_mem (h : Continues s) : '#' ∉ s := fun hmem => absurd (h _ hmem) (by decide)

end Continues

namespace Placed

variable {url : Url}

theorem authorityChars_continues (h : url.Placed) : Continues url.authorityChars := by
  unfold authorityChars
  split
  · exact .nil
  · next host hhost =>
    have huserinfo : Continues url.userinfoChars := by
      unfold userinfoChars
      split
      · exact .nil
      · refine (h.username.append ?_).append (.cons rfl .nil)
        split
        · exact .nil
        · exact .cons rfl h.password
    refine (((Continues.cons rfl (.cons rfl huserinfo)).append (h.host host hhost))).append ?_
    split
    · exact .nil
    · exact .cons rfl (Continues.toDigits 10 _)

theorem pathChars_continues (h : url.Placed) : Continues url.pathChars := by
  have hpath := h.path
  unfold pathChars
  split
  · next text heq =>
    rw [heq] at hpath
    exact hpath text (List.mem_singleton_self _)
  · next list heq =>
    rw [heq] at hpath
    have htext : Continues (list.flatMap ('/' :: ·)) := by
      intro c hc
      obtain ⟨segment, hsegment, hc⟩ := List.mem_flatMap.mp hc
      exact Continues.cons rfl (hpath segment hsegment) c hc
    dsimp only
    split
    · exact .cons rfl (.cons rfl htext)
    · exact htext

theorem front_continues (h : url.Placed) :
    Continues (url.scheme ++ ':' :: url.authorityChars ++ url.pathChars) :=
  (h.scheme.append (.cons rfl h.authorityChars_continues)).append h.pathChars_continues

theorem number_not_mem (h : url.Placed) :
    '#' ∉ url.scheme ++ ':' :: url.authorityChars ++ url.pathChars ++ url.queryChars := by
  have hquery : '#' ∉ url.queryChars := by
    have := h.query
    unfold queryChars
    split
    · exact List.not_mem_nil
    · next query heq =>
      rw [List.mem_cons, not_or]
      exact ⟨by decide, this query heq⟩
  rw [List.mem_append, not_or]
  exact ⟨h.front_continues.number_not_mem, hquery⟩

theorem fragmentText_chars (h : url.Placed) : fragmentText url.chars = url.fragment := by
  have hfront := h.number_not_mem
  unfold fragmentText chars fragmentChars
  cases url.fragment with
  | none => rw [List.append_nil, Split.first?, if_neg hfront]; rfl
  | some fragment =>
      rw [Split.first?, if_pos (List.mem_append_right _ (List.mem_cons_self ..)), Split.first_append hfront]
      rfl

theorem queryText_chars (h : url.Placed) : queryText url.chars = url.query := by
  have hcut : (Split.first '#' url.chars).1 =
      url.scheme ++ ':' :: url.authorityChars ++ url.pathChars ++ url.queryChars := by
    have hfront := h.number_not_mem
    unfold chars fragmentChars
    cases url.fragment with
    | none => rw [List.append_nil, Split.first_of_not_mem hfront]
    | some fragment => rw [Split.first_append hfront]
  have hfront := h.front_continues.question_not_mem
  rw [queryText, hcut]
  unfold queryChars
  cases url.query with
  | none => rw [List.append_nil, Split.first?, if_neg hfront]; rfl
  | some query =>
      rw [Split.first?, if_pos (List.mem_append_right _ (List.mem_cons_self ..)), Split.first_append hfront]
      rfl

theorem withPairs (h : url.Placed) (pairs : List (List Char × List Char)) : (url.withPairs pairs).Placed := by
  have hquery : '#' ∉ url.query.getD [] := by
    have := h.query
    cases hquery : url.query with
    | none => exact List.not_mem_nil
    | some query => exact this query hquery
  exact { h with query := fun _ heq => Option.some.inj heq ▸ number_not_mem_foldl_extendQuery hquery pairs }

end Placed

end Url
end Passbook

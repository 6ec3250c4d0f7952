import Mathlib
import Passbook.Url.Reader

/-!
# What hosts are written in

A URL is cut at the first question mark and at the first number sign, so neither may stand in front of
the query. No host is written with one of them: addresses are digits with marks between them, and a
label is written in characters that a label can hold, or in the digits of Punycode.
-/
namespace Passbook

namespace Url

/-- Whether a text has no character that ends the path of a URL. -/
def Continues (s : List Char) : Prop := ∀ c ∈ s, endsPath c = false

namespace Continues

variable {c : Char} {s t : List Char}

theorem nil : Continues [] := fun _ h => absurd h List.not_mem_nil

theorem cons (hc : endsPath c = false) (hs : Continues s) : Continues (c :: s) :=
  List.forall_mem_cons.mpr ⟨hc, hs⟩

theorem append (hs : Continues s) (ht : Continues t) : Continues (s ++ t) :=
  List.forall_mem_append.mpr ⟨hs, ht⟩

theorem of_all (h : s.all (!endsPath ·) = true) : Continues s := by simpa [Continues] using h

theorem of_subset (ht : Continues t) (h : ∀ c ∈ s, c ∈ t) : Continues s := fun c hc => ht c (h c hc)

theorem digitChar (d : Nat) : endsPath (Nat.digitChar d) = false := by
  have hsmall : ∀ d < 16, endsPath (Nat.digitChar d) = false := by decide
  by_cases hd : d < 16
  · exact hsmall d hd
  · have hstar : Nat.digitChar d = '*' := by
      unfold Nat.digitChar
      repeat rw [if_neg (by omega)]
    rw [hstar]
    rfl

theorem toDigits (base n : Nat) : Continues (Nat.toDigits base n) := by
  have hcore : ∀ fuel n digits, Continues digits → Continues (Nat.toDigitsCore base fuel n digits) := by
    intro fuel
    induction fuel with
    | zero => exact fun _ _ h => h
    | succ fuel ih =>
        intro n digits h
        unfold Nat.toDigitsCore
        dsimp only
        split
        · exact h.cons (digitChar _)
        · exact ih _ _ (h.cons (digitChar _))
  exact hcore _ _ _ .nil

end Continues

theorem endsPath_eq_true {c : Char} : endsPath c = true ↔ c = '?' ∨ c = '#' := by
  simp [endsPath]

theorem endsPath_eq_false {p : Char → Bool} (hquestion : p '?' = false) (hnumber : p '#' = false) {c : Char}
    (hc : p c = true) : endsPath c = false := by
  refine Bool.eq_false_iff.mpr fun hends => ?_
  rcases endsPath_eq_true.mp hends with rfl | rfl
  · rw [hquestion] at hc
    cases hc
  · rw [hnumber] at hc
    cases hc

end Url

open Url (Continues endsPath endsPath_eq_false)

theorem Ipv4.chars_continues (address : Nat) : Continues (Ipv4.chars address) := by
  have hbyte (n : Nat) : Continues (Decimal.ofNat n) := Continues.toDigits 10 n
  exact (((hbyte _).append (.cons rfl (hbyte _))).append (.cons rfl (hbyte _))).append (.cons rfl (hbyte _))

theorem Ipv6.joined_continues (groups : List Nat) : Continues (Ipv6.joined groups) := by
  induction groups using Ipv6.joined.induct with
  | case1 => exact .nil
  | case2 n => exact Continues.toDigits 16 n
  | case3 n next rest ih => exact (Continues.toDigits 16 n).append (.cons rfl ih)

theorem Ipv6.chars_continues (groups : List Nat) : Continues (Ipv6.chars groups) := by
  unfold Ipv6.chars
  dsimp only
  split
  · exact Ipv6.joined_continues groups
  · exact (Ipv6.joined_continues _).append (.cons rfl (.cons rfl (Ipv6.joined_continues _)))

namespace Punycode

theorem digit_continues : ∀ n < 36, endsPath (digit n) = false := by
  decide

theorem numberDigits_continues (bias place q : Nat) : Continues (numberDigits bias place q) := by
  induction place, q using numberDigits.induct bias with
  | case1 place q t hlt =>
      have := threshold_bounds place bias
      rw [numberDigits, if_pos hlt]
      exact .cons (digit_continues q (by omega)) .nil
  | case2 place q t hge ih =>
      have := threshold_bounds place bias
      have hdigit : threshold place bias + (q - threshold place bias) % (36 - threshold place bias) < 36 := by
        have := Nat.mod_lt (q - threshold place bias) (show 0 < 36 - threshold place bias by omega)
        omega
      rw [numberDigits, if_neg hge]
      exact .cons (digit_continues _ hdigit) ih

theorem pass_continues {basic n : Nat} {e : Encoder} (label : List Char) (h : Continues e.output) :
    Continues (e.pass basic n label).output := by
  unfold Encoder.pass
  induction label generalizing e with
  | nil => exact h
  | cons c label ih =>
      rw [List.foldl_cons]
      refine ih ?_
      split
      · exact h
      · split
        · exact h.append (numberDigits_continues _ _ _)
        · exact h

theorem encode_continues {label : List Char} (h : Continues label) : Continues (encode label) := by
  have hascii : Continues (label.filter (·.toNat < 128)) := h.of_subset fun c hc => (List.mem_filter.mp hc).1
  unfold encode
  -- What the loop over the code points has written so far stays free of marks.
  refine Continues.append ?_ (List.foldlRecOn (motive := fun state : Encoder × Nat => Continues state.1.output)
    _ _ .nil fun _ hstate _ _ => pass_continues label hstate)
  split
  · exact .nil
  · exact hascii.append (.cons rfl .nil)

theorem value?_continues {c : Char} (h : (value? c).isSome = true) : endsPath c = false :=
  endsPath_eq_false (p := fun c => (value? c).isSome) (by decide) (by decide) h

theorem readNumber_continues {bias place weight value delta : Nat} {s rest : List Char}
    (h : readNumber bias place weight value s = some (delta, rest)) (hrest : Continues rest) :
    Continues s := by
  induction s generalizing place weight value with
  | nil => cases h
  | cons c s ih =>
      obtain ⟨d, hd, h⟩ := Option.bind_eq_some_iff.mp h
      have hc : endsPath c = false := value?_continues (Option.isSome_of_eq_some hd)
      refine .cons hc ?_
      dsimp only at h
      split at h
      · cases h
      · split at h
        · cases h
          exact hrest
        · exact ih h

/-- Characters are only added while numbers are read. -/
theorem insertAll_continues {fuel n i bias : Nat} {output s text : List Char}
    (h : insertAll fuel n i bias output s = some text) (htext : Continues text) :
    Continues output ∧ Continues s := by
  induction fuel generalizing n i bias output s with
  | zero =>
      cases s with
      | nil =>
          cases h
          exact ⟨htext, .nil⟩
      | cons c s => cases h
  | succ fuel ih =>
      cases s with
      | nil =>
          cases h
          exact ⟨htext, .nil⟩
      | cons c s =>
          obtain ⟨⟨delta, rest⟩, hnumber, h⟩ := Option.bind_eq_some_iff.mp h
          dsimp only at h
          split at h
          · cases h
          · obtain ⟨hmore, hrest⟩ := ih h
            have houtput : Continues output := by
              rw [← List.take_append_drop ((i + delta) % (output.length + 1)) output]
              exact .append (hmore.of_subset fun c hc => List.mem_append_left _ hc)
                (hmore.of_subset fun c hc => List.mem_append_right _ (List.mem_cons_of_mem _ hc))
            exact ⟨houtput, readNumber_continues hnumber hrest⟩

theorem eq_append_of_lastHyphen (s : List Char) :
    let tail := (s.reverse.takeWhile (· != '-')).reverse
    s = tail ∨ s = s.take (s.length - tail.length - 1) ++ '-' :: tail := by
  intro tail
  have hsplit : s = (s.reverse.dropWhile (· != '-')).reverse ++ tail := by
    rw [← List.reverse_append, List.takeWhile_append_dropWhile, List.reverse_reverse]
  cases hfront : s.reverse.dropWhile (· != '-') with
  | nil =>
      rw [hfront] at hsplit
      exact .inl hsplit
  | cons c front =>
      have hc : c = '-' := by
        have := List.head?_dropWhile_not (· != '-') s.reverse
        rw [hfront] at this
        simpa using this
      have heq : s = front.reverse ++ '-' :: tail := by
        rw [hfront, hc, List.reverse_cons, List.append_assoc] at hsplit
        exact hsplit
      have hlength : s.length - tail.length - 1 = front.reverse.length := by
        have := congrArg List.length heq
        rw [List.length_append, List.length_cons] at this
        omega
      have htake : s.take (s.length - tail.length - 1) = front.reverse := by
        rw [hlength, heq, List.take_left]
      exact .inr (htake.symm ▸ heq)

theorem decode?_continues {s text : List Char} (h : decode? s = some text) (htext : Continues text) :
    Continues s := by
  unfold decode? at h
  dsimp only at h
  split at h
  · obtain ⟨hfront, htail⟩ := insertAll_continues h htext
    rcases eq_append_of_lastHyphen s with heq | heq
    · exact heq ▸ htail
    · exact heq ▸ hfront.append (.cons rfl htail)
  · cases h

end Punycode

namespace Label

theorem isAllowed_continues {text : List Char} (h : text.all isAllowed = true) : Continues text :=
  fun c hc => endsPath_eq_false (by decide) (by decide) (List.all_eq_true.mp h c hc)

theorem isWellFormed_continues {text : List Char} (h : isWellFormed text = true) : Continues text := by
  simp only [isWellFormed, Bool.and_eq_true] at h
  exact isAllowed_continues h.1.1

/-- However a label is written, no character of it ends a path. -/
theorem read?_continues {part : List Char} {label : Label} (h : read? part = some label) :
    Continues label.ascii := by
  unfold read? at h
  split at h
  · next code =>
    dsimp only at h
    split at h
    · obtain ⟨text, htext, h⟩ := Option.bind_eq_some_iff.mp h
      split at h
      · next hconditions =>
        simp only [Bool.and_eq_true] at hconditions
        cases h
        have := Punycode.decode?_continues htext (isWellFormed_continues hconditions.2)
        exact .cons rfl (.cons rfl (.cons rfl (.cons rfl this)))
      · cases h
    · cases h
  · split at h
    · split at h
      · next hallowed =>
        cases h
        exact isAllowed_continues hallowed
      · cases h
    · split at h
      · next hconditions =>
        simp only [Bool.and_eq_true] at hconditions
        cases h
        have hmark : Continues "xn--".toList := .of_all (by decide)
        exact hmark.append (Punycode.encode_continues (isWellFormed_continues hconditions.2))
      · cases h

end Label

namespace Domain

theorem joined_continues {labels : List (List Char)} (h : ∀ label ∈ labels, Continues label) :
    Continues (joined labels) := by
  induction labels using joined.induct with
  | case1 => exact .nil
  | case2 label => exact h label (List.mem_singleton_self _)
  | case3 label next rest ih =>
      rw [List.forall_mem_cons] at h
      exact h.1.append (.cons rfl (ih h.2))

theorem continues_of_mapM {parts : List (List Char)} {labels : List Label}
    (h : parts.mapM Label.read? = some labels) : ∀ label ∈ labels, Continues label.ascii := by
  induction parts generalizing labels with
  | nil =>
      cases h
      exact List.forall_mem_nil _
  | cons part parts ih =>
      rw [List.mapM_cons] at h
      obtain ⟨label, hlabel, h⟩ := Option.bind_eq_some_iff.mp h
      obtain ⟨rest, hrest, h⟩ := Option.bind_eq_some_iff.mp h
      cases h
      exact List.forall_mem_cons.mpr ⟨Label.read?_continues hlabel, ih hrest⟩

theorem toAscii_continues {domain name : List Char} (h : toAscii domain = some name) : Continues name := by
  obtain ⟨labels, hlabels, rfl⟩ := Option.map_eq_some_iff.mp h
  obtain ⟨all, hall, hlabels⟩ := Option.bind_eq_some_iff.mp hlabels
  have heq : all = labels := by
    split at hlabels
    · cases hlabels
    · exact Option.some.inj hlabels
  refine joined_continues fun label hlabel => ?_
  obtain ⟨l, hl, rfl⟩ := List.mem_map.mp hlabel
  exact continues_of_mapM hall l (heq ▸ hl)

end Domain

namespace Host

theorem bracketed_continues {inner : List Char} {host : Host} (h : bracketed inner = .ok host) :
    Continues host.chars := by
  unfold bracketed at h
  split at h
  · cases hread : Ipv6.read inner.dropLast with
    | error fault =>
        rw [hread] at h
        cases h
    | ok groups =>
        rw [hread] at h
        cases h
        exact (Continues.cons rfl (Ipv6.chars_continues groups)).append (.cons rfl .nil)
  · cases h

/-- No character of a host ends a path. -/
theorem read_continues {s : List Char} {host : Host} (h : read s = .ok host) : Continues host.chars := by
  unfold read at h
  split at h
  · exact bracketed_continues h
  · split at h
    · cases h
    · cases h
    · next name hname hascii =>
      split at h
      · cases haddress : Ipv4.read name with
        | error fault =>
            rw [haddress] at h
            cases h
        | ok address =>
            rw [haddress] at h
            cases h
            exact Ipv4.chars_continues address
      · cases h
        exact Domain.toAscii_continues hascii

end Host

end Passbook

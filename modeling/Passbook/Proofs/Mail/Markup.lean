import Passbook.Proofs.Field.Rules
import Passbook.Proofs.Mail.Link

/-!
# The markup of a welcome message

A name and a link go into a welcome message as they are; nothing is escaped on the way. All the same the
tags of the message are those that it is written with. A name is made of letters and spaces, and the pairs
that a link gets have no mark that begins or ends a tag or a quotation, whatever the code of the record is.
-/
namespace Passbook

/-- Whether a character begins or ends a tag or a quotation. -/
def isMarkup (c : Char) : Bool := c == '<' || c == '>' || c == '"'

/-- The tags of a text: what is behind each `<`, up to the next `>`. -/
def tags (text : List Char) : List (List Char) :=
  (Split.all '<' text).tail.map fun piece => (Split.first '>' piece).1

def Unmarked (text : List Char) : Prop := text.all (!isMarkup ·) = true

instance (text : List Char) : Decidable (Unmarked text) := inferInstanceAs (Decidable (_ = _))

namespace Unmarked

variable {s : List Char}

theorem not_mem (h : Unmarked s) {c : Char} (hc : isMarkup c = true) : c ∉ s := by
  intro hmem
  have := List.all_eq_true.mp h c hmem
  rw [hc] at this
  cases this

theorem filter_eq_nil (h : Unmarked s) : s.filter isMarkup = [] :=
  List.filter_eq_nil_iff.mpr fun c hc => by simpa using List.all_eq_true.mp h c hc

end Unmarked

theorem isAlphabetic_of_isMarkup {c : Char} (h : isMarkup c = true) :
    Unicode.isAlphabetic c = false ∧ c ≠ ' ' := by
  simp only [isMarkup, Bool.or_eq_true, beq_iff_eq] at h
  rcases h with (rfl | rfl) | rfl
  all_goals exact ⟨(if_pos (by decide)).trans (by decide), by decide⟩

theorem IsFullName.unmarked {name : String} (h : IsFullName name) : Unmarked name.toList := by
  refine List.all_eq_true.mpr fun c hc => ?_
  by_contra hmarkup
  obtain ⟨hletter, hspace⟩ := isAlphabetic_of_isMarkup (by simpa using hmarkup)
  rcases h c hc with halphabetic | hblank
  · rw [hletter] at halphabetic
    cases halphabetic
  · exact hspace hblank

namespace Url

/-- What holds of a written URL and of all that is written for pairs holds of the URL with the pairs. -/
theorem all_chars_withPairs {p : Char → Bool} {url : Url}
    (hbytes : ∀ n < 256, (Form.encodeByte (UInt8.ofNat n)).all p = true) (hamp : p '&' = true)
    (hequals : p '=' = true) (hquestion : p '?' = true) (h : url.chars.all p = true)
    (pairs : List (List Char × List Char)) : (url.withPairs pairs).chars.all p = true := by
  simp only [chars, List.all_append, Bool.and_eq_true] at h
  obtain ⟨⟨⟨hfront, hpath⟩, hquery⟩, hfragment⟩ := h
  have hold : (url.query.getD []).all p = true := by
    unfold queryChars at hquery
    cases hcase : url.query with
    | none => rfl
    | some query =>
        rw [hcase, List.all_cons, Bool.and_eq_true] at hquery
        exact hquery.2
  have hnew : (url.withPairs pairs).queryChars.all p = true := by
    change List.all ('?' :: _) p = true
    rw [List.all_cons, hquestion, all_foldl_extendQuery hbytes hamp hequals hold pairs]
    rfl
  simp only [chars, List.all_append, Bool.and_eq_true]
  exact ⟨⟨⟨hfront, hpath⟩, hnew⟩, hfragment⟩

theorem unmarked_withPairs {url : Url} (h : Unmarked url.chars) (pairs : List (List Char × List Char)) :
    Unmarked (url.withPairs pairs).chars :=
  all_chars_withPairs (by decide +kernel) rfl rfl rfl h pairs

end Url

namespace Mail

/-- The markup of a text with a link is that of the template of welcome messages: three line breaks and one
anchor, whose only attribute has the link as its value. -/
structure MarkedUp (content link : List Char) : Prop where
  marks : content.filter isMarkup = "<><><\"\"><><>".toList
  tags : tags content =
    ["br/".toList, "br/".toList, "a href=\"".toList ++ link ++ ['"'], "/a".toList, "br/".toList]
  quoted : ∃ front back, Split.all '"' content = [front ++ "href=".toList, link, back]

/-- A name and a link without markup leave the markup of the template as it is. -/
theorem welcomeContent_markedUp {name : String} {link : List Char} (hname : Unmarked name.toList)
    (hlink : Unmarked link) : MarkedUp (welcomeContent name link).toList link := by
  have hcontent := welcomeContent_offers name link
  rw [Offers] at hcontent
  constructor
  case marks =>
    simp only [hcontent, List.filter_append, hname.filter_eq_nil, hlink.filter_eq_nil]
    decide +kernel
  case tags =>
    have hpieces : Split.all '<' (welcomeContent name link).toList =
        ["Hello ".toList ++ name.toList ++ ", ".toList, "br/>Thank you for registering with us! ".toList,
          "br/>Please ".toList, "a href=\"".toList ++ link ++ ['"'] ++ '>' :: "click here".toList,
          "/a> to verify your email address.".toList, "br/>".toList] :=
      Split.all_eq_cons_iff.mpr ⟨by simp [hcontent], by simp [hname.not_mem, hlink.not_mem, isMarkup]⟩
    have hanchor : '>' ∉ "a href=\"".toList ++ link ++ ['"'] := by simp [hlink.not_mem, isMarkup]
    rw [tags, hpieces]
    simp only [List.tail_cons, List.map_cons, List.map_nil, Split.first_append hanchor]
    rfl
  case quoted =>
    refine ⟨"Hello ".toList ++ name.toList ++
        ", <br/>Thank you for registering with us! <br/>Please <a ".toList,
      ">click here</a> to verify your email address.<br/>".toList, Split.all_eq_cons_iff.mpr ⟨?_, ?_⟩⟩
    · simp [hcontent]
    · simp [hname.not_mem, hlink.not_mem, isMarkup]

/-- Neither the name of a registrant nor the code of a record brings markup into a welcome message. Its tags
are those of the template, and the value of its one attribute is the link. -/
theorem welcome_markup_fixed {user : User} (record : Verification) {base : String} {url : Url}
    (hname : Field.fullName user.fullName = .ok ()) (hbase : Url.read base.toList = .ok url)
    (hmarks : Unmarked url.chars) :
    ∃ link message, Mail.link base record = .ok link ∧ link = (url.withPairs (linkPairs record)).chars ∧
      welcome user record base = .ok message ∧ MarkedUp message.content.toList link := by
  obtain ⟨-, hrules⟩ := List.forall_mem_cons.mp (Field.fullName_enforces.kept_of_ok hname)
  have hfull : IsFullName user.fullName := (List.forall_mem_cons.mp hrules).1
  obtain ⟨link, hlink⟩ : ∃ link, link = (url.withPairs (linkPairs record)).chars := ⟨_, rfl⟩
  have hwritten : Mail.link base record = .ok link := by
    rw [Mail.link, hbase, hlink]
    rfl
  have hunmarked : Unmarked link := hlink ▸ Url.unmarked_withPairs hmarks (linkPairs record)
  have hwelcome : welcome user record base = .ok
      { subject := "Welcome to Bank Ledger"
        content := welcomeContent user.fullName link
        recipients := [record.email] } := by
    rw [welcome, hwritten]
    rfl
  exact ⟨link, _, hwritten, hlink, hwelcome, welcomeContent_markedUp hfull.unmarked hunmarked⟩

/-- A record whose code would end the attribute and the anchor, if it were written as it is. -/
def injecting : Verification := { marked with secretCode := "\"></a><script src=\"//x\"></script>" }

/-- The marks of the code are escaped. -/
theorem welcome_markup_fixed_injecting : ∃ message,
    Field.fullName claire.fullName = .ok () ∧
    Url.read "https://Bank.example/confirm?from=a%26b&copy#top".toList = .ok markedBase ∧
    Unmarked markedBase.chars ∧
    welcome claire injecting "https://Bank.example/confirm?from=a%26b&copy#top" = .ok message ∧
    MarkedUp message.content.toList
      ("https://bank.example/confirm?from=a%26b&copy&email_id=7&secret_code=%22%3E%3C%2Fa%3E%3Cscript+src".toList ++
        "%3D%22%2F%2Fx%22%3E%3C%2Fscript%3E#top".toList) := by
  have hname : Field.fullName claire.fullName = .ok () := rfl
  have hmarks : Unmarked markedBase.chars := by decide +kernel
  obtain ⟨link, message, -, hlink, hwelcome, hcontent⟩ :=
    welcome_markup_fixed injecting hname read_markedBase hmarks
  have hchars : (markedBase.withPairs (linkPairs injecting)).chars =
      "https://bank.example/confirm?from=a%26b&copy&email_id=7&secret_code=%22%3E%3C%2Fa%3E%3Cscript+src".toList ++
        "%3D%22%2F%2Fx%22%3E%3C%2Fscript%3E#top".toList := by decide +kernel
  rw [hlink, hchars] at hcontent
  exact ⟨message, hname, read_markedBase, hmarks, hwelcome, hcontent⟩

end Mail
end Passbook

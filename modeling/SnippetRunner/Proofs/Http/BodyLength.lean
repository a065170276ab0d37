import SnippetRunner.Http.Server
import SnippetRunner.Proofs.Engine.Snippets
import SnippetRunner.Proofs.Number.Amount
import SnippetRunner.Proofs.Number.Digits

/-!
# Bodies that are too long

A server turns a request away by the length that its header gives for the body; the body itself is
not measured. A header gives a length if it is made of digits. The raised digits of the Latin
letters are among these, although they make no number.

* `Request.Declares` and `Request.Garbled` say what a header gives.
* `body_length_checked` says what becomes of a request.
-/

namespace SnippetRunner

open Text

/-! ## Characters of headers -/

/-- A text of which nothing is complained holds no unfit character. -/
lemma fits_of_unwritable? {encoding reason s : String} {fits : Char → Bool}
    (writable : unwritable? encoding reason fits s = none) : ∀ c ∈ s.toList, fits c = true := by
  have hsplit : s.toList.takeWhile fits ++ s.toList.dropWhile fits = s.toList :=
    List.takeWhile_append_dropWhile
  have hdrop : s.toList.drop (s.toList.takeWhile fits).length = s.toList.dropWhile fits := by
    nth_rewrite 2 [← hsplit]
    exact List.drop_left
  have hbad : (s.toList.dropWhile fits).takeWhile (fun c => ! fits c) = [] := by
    simp only [unwritable?, hdrop] at writable
    split at writable
    · assumption
    · cases writable
    · cases writable
  rw [← List.dropWhile_eq_nil_iff]
  have hfirst := List.head?_dropWhile_not fits s.toList
  cases hrest : s.toList.dropWhile fits with
  | nil => rfl
  | cons c rest =>
    rw [hrest] at hfirst hbad
    simp [show fits c = false from hfirst] at hbad

namespace Http

/-- The digits of one byte are the decimal and the raised ones. -/
lemma isDigit_iff_of_byte {c : Char} (hbyte : c.toNat < 256) :
    isDigit c = true ↔ c.isDigit ∨ IsRaised c := by
  simp only [isDigit, decimalValue?_of_byte hbyte, Bool.or_eq_true, beq_iff_eq, IsRaised, or_assoc]
  cases c.isDigit <;> simp

end Http

/-! ## Limits -/

/-- Whether a value is a number below a length. -/
def Data.IsBelow (v : Data) (n : Nat) : Prop := ∃ x, v.amount? = some x ∧ x < (n : EReal)

namespace Data

variable {v : Data} {m n : Nat}

lemma IsBelow.mono (below : v.IsBelow m) (hle : m ≤ n) : v.IsBelow n := by
  obtain ⟨x, hx, hlt⟩ := below
  exact ⟨x, hx, hlt.trans_le (by exact_mod_cast hle)⟩

lemma above_eq_error_iff {problem : Problem} :
    compared ">" (· == .gt) (.int n) v = .error problem ↔
      v.numeric? = none ∧ problem = orderless ">" (.int n) v := by
  unfold compared
  cases v.numeric? with
  | none => simp [numeric?, eq_comm]
  | some b => simp [numeric?]

lemma above_eq_true_iff : compared ">" (· == .gt) (.int n) v = .ok true ↔ v.IsBelow n := by
  unfold compared IsBelow amount?
  cases v.numeric? with
  | none => simp [numeric?]
  | some b =>
    have hcast : (((n : Int) : ℝ) : EReal) = (n : EReal) := by norm_num
    simp only [numeric?, Numeric.int_compare?, hcast, Option.bind_some, Except.ok.injEq]
    cases b.amount? with
    | none => simp
    | some x => simp [compare_gt_iff_gt]

end Data

/-! ## The length in a header -/

namespace Http

open Number

namespace Request

variable (r : Request)

/-- Whether a header gives a length: it is made of decimal digits, not too many of them. -/
def Declares (n : Nat) : Prop :=
  ∃ text, r.header? "content-length" = some text ∧ text ≠ "" ∧
    (∀ c ∈ text.toList, c.isDigit) ∧ text.length ≤ digitLimit ∧ n = digitsValue text.toList

/-- Whether a header gives digits that make no length: a raised one is among them, or they are too
many. -/
def Garbled : Prop :=
  ∃ text, r.header? "content-length" = some text ∧
    (∀ c ∈ text.toList, c.isDigit ∨ IsRaised c) ∧
    ((∃ c ∈ text.toList, IsRaised c) ∨ digitLimit < text.length)

variable {r}

/-- What comes with a request is made of bytes. -/
lemma header_bytes (sent : r.headerProblem? = none) {name text : String}
    (hheader : r.header? name = some text) : ∀ c ∈ text.toList, c.toNat < 256 := by
  obtain ⟨⟨key, value⟩, hfind, rfl⟩ := Option.map_eq_some_iff.mp hheader
  have hnone := List.findSome?_eq_none_iff.mp sent _ (List.mem_of_find?_eq_some hfind)
  rw [Option.map_eq_none_iff] at hnone
  exact fun c hc => of_decide_eq_true (fits_of_unwritable? hnone c hc)

/-- A header of digits is read as a number. -/
lemma givenLength_of_digits {text : String} (hne : text ≠ "")
    (digits : ∀ c ∈ text.toList, c.isDigit ∨ IsRaised c) :
    Http.givenLength (some text) =
      match readInt text with
      | .ok n => .ok (some n)
      | .error fault => .error ⟨"ValueError", fault.complaint 10 text⟩ := by
  have hnonempty : text.isEmpty = false := by simpa using hne
  have hall : text.toList.all Http.isDigit = true :=
    List.all_eq_true.mpr fun c hc =>
      (isDigit_iff_of_byte (byte_of_digit (digits c hc))).mpr (digits c hc)
  rcases hread : readInt text with fault | n <;>
    simp only [Http.givenLength, hnonempty, hall, hread, Bool.not_true, Bool.or_self,
      Bool.false_eq_true, if_false]

lemma Declares.givenLength {n : Nat} (declares : r.Declares n) :
    givenLength (r.header? "content-length") = .ok (some (n : Int)) := by
  obtain ⟨text, hheader, hne, digits, hlength, rfl⟩ := declares
  rw [hheader, givenLength_of_digits hne fun c hc => Or.inl (digits c hc),
    readInt_of_digits hne digits, if_neg (not_lt.mpr hlength)]

lemma Garbled.givenLength (garbled : r.Garbled) :
    ∃ problem, Http.givenLength (r.header? "content-length") = .error problem := by
  obtain ⟨text, hheader, digits, reason⟩ := garbled
  have hne : text ≠ "" := by
    rintro rfl
    rcases reason with ⟨c, hc, -⟩ | hlong
    · simp at hc
    · simp at hlong
  rw [hheader, givenLength_of_digits hne digits]
  by_cases raised : ∃ c ∈ text.toList, IsRaised c
  · rw [readInt_of_raised digits raised]
    exact ⟨_, rfl⟩
  · have hdecimal : ∀ c ∈ text.toList, c.isDigit := fun c hc =>
      (digits c hc).resolve_right fun h => raised ⟨c, hc, h⟩
    rw [readInt_of_digits hne hdecimal, if_pos (reason.resolve_left raised)]
    exact ⟨_, rfl⟩

/-- A header of digits gives a length or is garbled. -/
lemma declares_or_garbled {text : String} (hheader : r.header? "content-length" = some text)
    (hne : text ≠ "") (digits : ∀ c ∈ text.toList, c.isDigit ∨ IsRaised c) :
    (∃ n, r.Declares n) ∨ r.Garbled := by
  by_cases raised : ∃ c ∈ text.toList, IsRaised c
  · exact Or.inr ⟨text, hheader, digits, Or.inl raised⟩
  have hdecimal : ∀ c ∈ text.toList, c.isDigit := fun c hc =>
    (digits c hc).resolve_right fun h => raised ⟨c, hc, h⟩
  by_cases hlength : text.length ≤ digitLimit
  · exact Or.inl ⟨_, text, hheader, hne, hdecimal, hlength, rfl⟩
  · exact Or.inr ⟨text, hheader, digits, Or.inr (not_le.mp hlength)⟩

lemma givenLength_of_undeclared (sent : r.headerProblem? = none) (sound : ¬ r.Garbled)
    (undeclared : ∀ n, ¬ r.Declares n) :
    Http.givenLength (r.header? "content-length") = .ok none := by
  cases hheader : r.header? "content-length" with
  | none => rfl
  | some text =>
    rw [Http.givenLength]
    split_ifs with hdigits
    · rfl
    · simp only [Bool.or_eq_true, Bool.not_eq_true', not_or, Bool.not_eq_true, Bool.not_eq_false,
        List.all_eq_true] at hdigits
      obtain ⟨hne, hall⟩ := hdigits
      have hdigits' : ∀ c ∈ text.toList, c.isDigit ∨ IsRaised c := fun c hc =>
        (isDigit_iff_of_byte (header_bytes sent hheader c hc)).mp (hall c hc)
      rcases declares_or_garbled hheader (by simpa using hne) hdigits' with ⟨n, h⟩ | h
      · exact (undeclared n h).elim
      · exact (sound h).elim

end Request

/-! ## The check -/

section Check

variable {most : Data} {r : Request} {n : Nat}

lemma checkLength_of_declares (declares : r.Declares n) :
    checkLength most r = (do
      if ← Data.compared ">" (· == .gt) (.int n) most then return some (← tooLong most)
      else return none) := by
  rw [checkLength, declares.givenLength]
  rfl

lemma checkLength_of_garbled (garbled : r.Garbled) :
    ∃ problem, checkLength most r = .error problem := by
  obtain ⟨problem, hgiven⟩ := garbled.givenLength
  exact ⟨problem, by rw [checkLength, hgiven]; rfl⟩

lemma checkLength_of_undeclared (sent : r.headerProblem? = none) (sound : ¬ r.Garbled)
    (undeclared : ∀ n, ¬ r.Declares n) : checkLength most r = .ok none := by
  rw [checkLength, r.givenLength_of_undeclared sent sound undeclared]
  rfl

lemma tooLong_of_shown (short : most.isTooLong = false) :
    tooLong most = .ok (refuse 413 s!"Request body exceeds {most.shown} bytes") := by
  rw [tooLong, Data.print, short]
  rfl

lemma checkLength_of_below (declares : r.Declares n) (below : most.IsBelow n)
    (short : most.isTooLong = false) :
    checkLength most r
      = .ok (some (refuse 413 s!"Request body exceeds {most.shown} bytes")) := by
  rw [checkLength_of_declares declares, Data.above_eq_true_iff.mpr below, tooLong_of_shown short]
  rfl

lemma checkLength_of_not_below (declares : r.Declares n) (number : most.numeric? ≠ none)
    (fits : ¬ most.IsBelow n) : checkLength most r = .ok none := by
  rw [checkLength_of_declares declares]
  rcases habove : Data.compared ">" (· == .gt) (.int n) most with problem | _ | _
  · exact absurd (Data.above_eq_error_iff.mp habove).1 number
  · rfl
  · exact absurd (Data.above_eq_true_iff.mp habove) fits

/-- Where a length is given, the check raises if the limit cannot be compared with it or shown. -/
lemma checkLength_of_unusable (declares : r.Declares n)
    (unusable : most.numeric? = none ∨ most.IsBelow n ∧ most.isTooLong = true) :
    ∃ problem, checkLength most r = .error problem := by
  rw [checkLength_of_declares declares]
  rcases unusable with hnone | ⟨below, long⟩
  · rw [Data.above_eq_error_iff.mpr ⟨hnone, rfl⟩]
    exact ⟨_, rfl⟩
  · rw [Data.above_eq_true_iff.mpr below, tooLong, Data.print, long]
    exact ⟨_, rfl⟩

end Check

/-- What becomes of a request, by the length that it gives for its body.

The check raises if the length is garbled, or if the limit cannot be compared with the length that is
given, or is below it and cannot be shown. Where the limit is below the length, or below the body and
the length is not less than this, the request is turned away and nothing else is done. Otherwise it is
passed on, also if no length is given, however long the body is. -/
theorem body_length_checked {κ π ν σ χ : Type} (s : Server κ π ν σ χ) (r : Request)
    (p : Process σ χ) (sent : r.headerProblem? = none) :
    ((∃ problem, checkLength s.maxBody r = .error problem) ↔
      r.Garbled ∨ ∃ n, r.Declares n ∧
        (s.maxBody.numeric? = none ∨ s.maxBody.IsBelow n ∧ s.maxBody.isTooLong = true)) ∧
    (∀ n, r.Declares n →
      s.maxBody.IsBelow n ∨ r.body.length ≤ n ∧ s.maxBody.IsBelow r.body.length →
      s.maxBody.isTooLong = false →
        s.answer r p
          = (.ok (refuse 413 s!"Request body exceeds {s.maxBody.shown} bytes"), p)) ∧
    (¬ r.Garbled →
      (∀ n, r.Declares n → s.maxBody.numeric? ≠ none ∧ ¬ s.maxBody.IsBelow n) →
        s.answer r p = s.dispatch r p) := by
  refine ⟨⟨?_, ?_⟩, fun n declares hlong short => ?_, fun sound fits => ?_⟩
  · rintro ⟨problem, hraised⟩
    by_cases garbled : r.Garbled
    · exact Or.inl garbled
    by_cases undeclared : ∀ n, ¬ r.Declares n
    · rw [checkLength_of_undeclared sent garbled undeclared] at hraised
      cases hraised
    obtain ⟨n, declares⟩ := not_forall_not.mp undeclared
    refine Or.inr ⟨n, declares, ?_⟩
    by_cases hnone : s.maxBody.numeric? = none
    · exact Or.inl hnone
    by_cases below : s.maxBody.IsBelow n
    · cases long : s.maxBody.isTooLong with
      | true => exact Or.inr ⟨below, rfl⟩
      | false =>
        rw [checkLength_of_below declares below long] at hraised
        cases hraised
    · rw [checkLength_of_not_below declares hnone below] at hraised
      cases hraised
  · rintro (garbled | ⟨n, declares, unusable⟩)
    · exact checkLength_of_garbled garbled
    · exact checkLength_of_unusable declares unusable
  · have below : s.maxBody.IsBelow n := hlong.elim id fun h => h.2.mono h.1
    simp only [Server.answer, sent, checkLength_of_below declares below short]
  · have hpassed : checkLength s.maxBody r = .ok none := by
      by_cases undeclared : ∀ n, ¬ r.Declares n
      · exact checkLength_of_undeclared sent sound undeclared
      · obtain ⟨n, declares⟩ := not_forall_not.mp undeclared
        exact checkLength_of_not_below declares (fits n declares).1 (fits n declares).2
    simp only [Server.answer, sent, hpassed]

open Evaluation Sandbox Fault in
/-- A server that takes bodies of up to four bytes. -/
def fourBytes : Server Callback Program Nat Heap Table := { engine := usualEngine, maxBody := .int 4 }

/-- A request with a body of five bytes, and the headers that come with it. -/
def fiveBytes (headers : List (String × String)) : Request where
  method := "POST"
  path := "/api/echo"
  headers := headers
  body := [0x31, 0x32, 0x33, 0x34, 0x35]

/-- A body whose length is given is turned away. -/
theorem body_length_checked_given :
    (fiveBytes [("content-length", "5")]).headerProblem? = none ∧
    fourBytes.answer (fiveBytes [("content-length", "5")]) (startProcess none)
      = (.ok (refuse 413 "Request body exceeds 4 bytes"), startProcess none) := by
  have sent : (fiveBytes [("content-length", "5")]).headerProblem? = none := rfl
  have declares : (fiveBytes [("content-length", "5")]).Declares 5 :=
    ⟨"5", rfl, by decide, by simp, by decide, rfl⟩
  have below : fourBytes.maxBody.IsBelow 5 := by
    refine ⟨((4 : Int) : ℝ), rfl, ?_⟩
    rw [← EReal.coe_natCast, EReal.coe_lt_coe_iff]
    norm_num
  have hshown : s!"Request body exceeds {fourBytes.maxBody.shown} bytes"
      = "Request body exceeds 4 bytes" := rfl
  obtain ⟨-, hrefused, -⟩ :=
    body_length_checked fourBytes (fiveBytes [("content-length", "5")]) (startProcess none) sent
  refine ⟨sent, ?_⟩
  rw [hrefused 5 declares (Or.inl below) rfl, hshown]

/-- Without a header the body is not said to be a document. -/
lemma saysJson_fiveBytes : (fiveBytes []).saysJson = false := by
  have hheader : (fiveBytes []).header? "content-type" = none := rfl
  have hkind : lower (strip (String.ofList ("".toList.takeWhile (· != ';')))) = "" := rfl
  have hsplit : "".splitOn "/" = [""] := by cbv
  simp only [Request.saysJson, hheader, Option.getD_none, hkind, hsplit]
  rfl

/-- A body whose length is not given is passed on and repeated, and a raised digit breaks the
check. -/
theorem body_length_unchecked :
    (fourBytes.answer (fiveBytes []) (startProcess none)).1
      = .ok ⟨200, .json (object [("ok", .bool true), ("got", .text "12345")])⟩ ∧
    checkLength fourBytes.maxBody (fiveBytes [("content-length", "\xb2")])
      = .error ⟨"ValueError", IntFault.malformed.complaint 10 "\xb2"⟩ := by
  constructor
  · have hsent : (fiveBytes []).headerProblem? = none := rfl
    have hpassed : checkLength fourBytes.maxBody (fiveBytes []) = .ok none := rfl
    have hroute : routes.lookup (fiveBytes []).path = some .echo := rfl
    have hmethod : Route.echo.methods.contains (fiveBytes []).method = true := rfl
    have hreceived : (fiveBytes []).received = .ok (.other (fiveBytes []).body) := by
      rw [Request.received, saysJson_fiveBytes]
      rfl
    have htext : decodeUtf8 (fiveBytes []).body = .ok "12345" := rfl
    simp only [Server.answer, hsent, hpassed, Server.dispatch, hroute, hmethod, if_true,
      Server.answerRoute, hreceived, Server.echoResponse, htext]
    rfl
  · have hheader : (fiveBytes [("content-length", "\xb2")]).header? "content-length"
        = some "\xb2" := rfl
    have hdigits : ∀ c ∈ "\xb2".toList, c.isDigit ∨ IsRaised c := by simp [IsRaised]
    have hread : readInt "\xb2" = .error .malformed :=
      readInt_of_raised hdigits ⟨'\xb2', by simp, by simp [IsRaised]⟩
    rw [checkLength, hheader, Request.givenLength_of_digits (by decide) hdigits, hread]
    rfl

end Http

end SnippetRunner

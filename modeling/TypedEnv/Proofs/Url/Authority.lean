import TypedEnv.Proofs.Decimal.Reading
import TypedEnv.Proofs.Outcome
import TypedEnv.Proofs.Url.Host
import TypedEnv.Url.Reader

/-!
# Authorities that are read again

User, password, host and port are separated by characters that none of them
contains, so an authority that was read is taken apart as it was written, up to
the slash, question mark or number sign that ends it.
-/

namespace TypedEnv.Url

/-- What every authority that was read has in common. -/
structure Authority.IsAuthority (type : SchemeType) (scheme : List Char) (authority : Authority) :
    Prop where
  user : ∀ c ∈ authority.user, isUserEncoded c = false
  password : ∀ c ∈ authority.password, isUserEncoded c = false
  host : authority.host.IsHost type
  port : ∀ port ∈ authority.port, port ≤ 65535 ∧ usualPort? scheme ≠ some port
  bare : authority.host.isEmpty = true →
    authority.user = [] ∧ authority.password = [] ∧ authority.port = none

namespace Authority

def credentials (authority : Authority) : List Char :=
  authority.user ++ if authority.password.isEmpty then [] else ':' :: authority.password

def portText (authority : Authority) : List Char :=
  match authority.port with
  | none => []
  | some port => ':' :: Decimal.digits port

def hostText (authority : Authority) : List Char :=
  authority.host.text ++ authority.portText

theorem text_eq (authority : Authority) : authority.text =
    (if authority.credentials.isEmpty then [] else authority.credentials ++ ['@']) ++
      authority.hostText := by
  rw [hostText, ← List.append_assoc]
  rfl

end Authority

/-- Whether a text begins with a character that ends an authority, or is empty. -/
def Ends (type : SchemeType) (rest : List Char) : Prop :=
  ∀ c ∈ rest.head?, endsAuthority type c = true

variable {type : SchemeType} {scheme rest : List Char} {authority : Authority}

theorem endsAuthority_of_isHostChar (type : SchemeType) {c : Char}
    (isHostChar : Host.isHostChar c = true) : endsAuthority type c = false ∧ c ≠ '@' := by
  have other : c ∉ "/?#@\\".toList := Text.not_mem_of_test isHostChar (by decide)
  have apart : c ≠ '/' ∧ c ≠ '?' ∧ c ≠ '#' ∧ c ≠ '@' ∧ c ≠ '\\' := by simpa using other
  obtain ⟨slash, question, number, atSign, backslash⟩ := apart
  exact ⟨by simp [endsAuthority, slash, question, number, backslash], atSign⟩

theorem isHostChar_of_isUserEncoded {c : Char} (kept : isUserEncoded c = false) :
    Host.isHostChar c = true := by
  have other : c ∉ "/?#@\\|".toList := Text.not_mem_of_test kept (by decide)
  have visible : 32 < c.toNat := visible_of_isUserEncoded kept
  simpa [Host.isHostChar, visible] using other

theorem isHostChar_of_isDigit {c : Char} (isDigit : c.isDigit = true) :
    Host.isHostChar c = true := by
  have other : c ∉ "/?#@\\|".toList := Text.not_mem_of_test isDigit (by decide)
  have range := Text.isDigit_iff.mp isDigit
  have visible : 32 < c.toNat := by omega
  simpa [Host.isHostChar, visible] using other

theorem colon_not_mem_user (isAuthority : authority.IsAuthority type scheme) :
    ':' ∉ authority.user := by
  intro member
  have kept := isAuthority.user _ member
  cases kept

theorem isHostChar_hostText (isAuthority : authority.IsAuthority type scheme) :
    ∀ c ∈ authority.hostText, Host.isHostChar c = true := by
  intro c member
  rcases List.mem_append.mp member with inHost | inPort
  · exact Host.isHostChar_of_mem isAuthority.host c inHost
  · unfold Authority.portText at inPort
    split at inPort
    · cases inPort
    · rcases List.mem_cons.mp inPort with rfl | isDigit
      · rfl
      · exact isHostChar_of_isDigit (Decimal.isDigit_of_mem_digits isDigit)

theorem isHostChar_credentials (isAuthority : authority.IsAuthority type scheme) :
    ∀ c ∈ authority.credentials, Host.isHostChar c = true := by
  intro c member
  rcases List.mem_append.mp member with inUser | inPassword
  · exact isHostChar_of_isUserEncoded (isAuthority.user c inUser)
  · split at inPassword
    · cases inPassword
    · rcases List.mem_cons.mp inPassword with rfl | inPassword
      · rfl
      · exact isHostChar_of_isUserEncoded (isAuthority.password c inPassword)

/-- Apart from the at sign, all characters of an authority can stand in a host. -/
theorem isHostChar_text (isAuthority : authority.IsAuthority type scheme) :
    ∀ c ∈ authority.text, Host.isHostChar c = true ∨ c = '@' := by
  intro c member
  rw [Authority.text_eq] at member
  rcases List.mem_append.mp member with before | behind
  · split at before
    · cases before
    · rcases List.mem_append.mp before with isCredential | isMark
      · exact .inl (isHostChar_credentials isAuthority c isCredential)
      · exact .inr (List.mem_singleton.mp isMark)
  · exact .inl (isHostChar_hostText isAuthority c behind)

theorem endsAuthority_text (isAuthority : authority.IsAuthority type scheme) :
    ∀ c ∈ authority.text, endsAuthority type c = false := by
  intro c member
  rcases isHostChar_text isAuthority c member with isHostChar | rfl
  · exact (endsAuthority_of_isHostChar type isHostChar).1
  · cases type <;> rfl

/-- The text of a user and a password is taken apart at the first colon. -/
theorem split_credentials (isAuthority : authority.IsAuthority type scheme) :
    authority.credentials.takeWhile (· != ':') = authority.user ∧
      (authority.credentials.dropWhile (· != ':')).drop 1 = authority.password := by
  have inside : ∀ c ∈ authority.user, (c != ':') = true := by
    rintro c member
    rw [bne_iff_ne]
    rintro rfl
    exact colon_not_mem_user isAuthority member
  have stop : ∀ c ∈ (if authority.password.isEmpty then [] else ':' :: authority.password).head?,
      (c != ':') = false := by
    intro c isHead
    split at isHead
    · cases isHead
    · cases isHead
      rfl
  obtain ⟨taken, left⟩ := Text.takeWhile_append_stop inside stop
  rw [Authority.credentials, taken, left]
  refine ⟨rfl, ?_⟩
  split
  · next empty => simpa using empty
  · rfl

/-- The user and the password are found before the last at sign. -/
theorem readCredentials_text (isAuthority : authority.IsAuthority type scheme)
    (ends : Ends type rest) :
    readCredentials type (authority.text ++ rest) =
      .ok ((authority.user, authority.password), authority.hostText ++ rest) := by
  have inside : ∀ c ∈ authority.text, (!endsAuthority type c) = true := by
    intro c member
    rw [endsAuthority_text isAuthority c member]
    rfl
  have stop : ∀ c ∈ rest.head?, (!endsAuthority type c) = false := by
    intro c isHead
    rw [ends c isHead]
    rfl
  have noAt : ∀ c ∈ authority.hostText.reverse, (c != '@') = true := by
    intro c member
    have isHostChar := isHostChar_hostText isAuthority c (List.mem_reverse.mp member)
    simpa using (endsAuthority_of_isHostChar type isHostChar).2
  obtain ⟨taken, -⟩ := Text.takeWhile_append_stop inside stop
  obtain ⟨user, password⟩ := split_credentials isAuthority
  rw [readCredentials, taken, Authority.text_eq]
  by_cases bare : authority.credentials.isEmpty = true
  · have nothing : authority.hostText.reverse.dropWhile (· != '@') = [] :=
      List.dropWhile_eq_nil_iff.mpr noAt
    rw [List.isEmpty_iff.mp bare] at user password
    rw [if_pos bare, List.nil_append, nothing, ← user, ← password]
    rfl
  · have reversed : (authority.credentials ++ ['@'] ++ authority.hostText).reverse.dropWhile
        (· != '@') = '@' :: authority.credentials.reverse := by
      rw [List.reverse_append, List.dropWhile_append_of_pos noAt]
      simp
    have left : (authority.credentials ++ ['@'] ++ authority.hostText ++ rest).drop
        ('@' :: authority.credentials.reverse).length = authority.hostText ++ rest := by
      rw [List.append_assoc]
      exact List.drop_left' (by simp)
    rw [if_neg bare, reversed]
    dsimp only
    rw [List.reverse_reverse, left, user, password,
      percentEncode_eq_self isAuthority.user, percentEncode_eq_self isAuthority.password,
      if_neg (by simp [bare])]

theorem splitHost_plain {text : List Char}
    (plain : ∀ c ∈ text, endsAuthority type c = false ∧ c ≠ ':' ∧ c ≠ '[')
    (stop : ∀ c ∈ rest.head?, endsAuthority type c = true ∨ c = ':') :
    splitHost type false (text ++ rest) = (text, rest) := by
  induction text with
  | nil =>
      cases rest with
      | nil => rfl
      | cons c others =>
          rw [List.nil_append, splitHost, if_pos (by simpa using stop c rfl)]
  | cons c others induction =>
      obtain ⟨inside, noColon, noBracket⟩ := plain c List.mem_cons_self
      have later := induction fun d member => plain d (List.mem_cons_of_mem _ member)
      rw [List.cons_append, splitHost, if_neg (by simp [inside, noColon])]
      simp [noBracket, later]

theorem splitHost_brackets {body : List Char}
    (inside : ∀ c ∈ body, endsAuthority type c = false ∧ c ≠ '[' ∧ c ≠ ']')
    (stop : ∀ c ∈ rest.head?, endsAuthority type c = true ∨ c = ':') :
    splitHost type true (body ++ ']' :: rest) = (body ++ [']'], rest) := by
  induction body with
  | nil =>
      have behind : splitHost type false ([] ++ rest) = ([], rest) := splitHost_plain (by simp) stop
      have bracket : endsAuthority type ']' = false := by cases type <;> rfl
      rw [List.nil_append] at behind
      rw [List.nil_append, splitHost, if_neg (by simp [bracket])]
      simp [behind]
  | cons c others induction =>
      obtain ⟨current, noOpen, noClose⟩ := inside c List.mem_cons_self
      have later := induction fun d member => inside d (List.mem_cons_of_mem _ member)
      rw [List.cons_append, splitHost, if_neg (by simp [current])]
      simp [noOpen, noClose, later]

/-- The host is found before a colon outside brackets or the end of the authority. -/
theorem splitHost_text (isAuthority : authority.IsAuthority type scheme)
    (ends : Ends type rest) :
    splitHost type false (authority.hostText ++ rest) =
      (authority.host.text, authority.portText ++ rest) := by
  have stop : ∀ c ∈ (authority.portText ++ rest).head?, endsAuthority type c = true ∨ c = ':' := by
    intro c isHead
    unfold Authority.portText at isHead
    split at isHead
    · exact .inl (ends c isHead)
    · cases isHead
      exact .inr rfl
  rw [Authority.hostText, List.append_assoc]
  rcases Host.isHost_cases isAuthority.host with plain | ⟨body, written, chars⟩
  · apply splitHost_plain _ stop
    intro c member
    obtain ⟨isHostChar, noColon, noBracket⟩ := plain c member
    exact ⟨(endsAuthority_of_isHostChar type isHostChar).1, noColon, noBracket⟩
  · have bracket : endsAuthority type '[' = false := by cases type <;> rfl
    have inside : ∀ c ∈ body, endsAuthority type c = false ∧ c ≠ '[' ∧ c ≠ ']' := by
      intro c member
      obtain ⟨isHostChar, noOpen, noClose⟩ := chars c member
      exact ⟨(endsAuthority_of_isHostChar type isHostChar).1, noOpen, noClose⟩
    have behind := splitHost_brackets inside stop
    rw [written, List.cons_append, List.append_assoc, List.singleton_append, splitHost,
      if_neg (by simp [bracket])]
    simp [behind]

/-- A port is found before the end of the authority. -/
theorem readPort_text {port : Nat} (fits : port ≤ 65535) (unusual : usualPort? scheme ≠ some port)
    (ends : Ends type rest) :
    readPort scheme (Decimal.digits port ++ rest) = .ok (some port, rest) := by
  have isEnd : ∀ c ∈ rest.head?, c.isDigit = false ∧
      (!(c == '/' || c == '\\' || c == '?' || c == '#')) = false := by
    intro c isHead
    have isEnding := ends c isHead
    simp only [endsAuthority, Bool.or_eq_true, Bool.and_eq_true, beq_iff_eq] at isEnding
    rcases isEnding with ((rfl | rfl) | rfl) | ⟨-, rfl⟩
    · decide
    · decide
    · decide
    · decide
  obtain ⟨taken, left⟩ := Text.takeWhile_append_stop
    (fun _ member => Decimal.isDigit_of_mem_digits (n := port) member)
    (fun c isHead => (isEnd c isHead).1)
  have noMore : rest.head?.any (fun c => !(c == '/' || c == '\\' || c == '?' || c == '#')) =
      false := by
    cases head : rest.head? with
    | none => rfl
    | some c => exact (isEnd c head).2
  have value : (Decimal.ofDigits? 10 (Decimal.digits port)).getD 0 = port := by
    rw [Decimal.ofDigits?_digits, Option.getD_some]
  rw [readPort, taken, left, value, if_neg (Nat.not_lt.mpr fits), noMore]
  simp [Decimal.digits_ne_nil, unusual]

section Read

variable {text : List Char}

theorem kept_of_readCredentials {user password : List Char}
    (found : readCredentials type text = .ok ((user, password), rest)) :
    (∀ c ∈ user, isUserEncoded c = false) ∧ ∀ c ∈ password, isUserEncoded c = false := by
  have escapes : ∀ c ∈ escapeChars, isUserEncoded c = false :=
    Text.forall_mem_of_all (by decide)
  rw [readCredentials] at found
  split at found
  · cases found
    simp
  · dsimp only at found
    split at found
    · cases found
    · cases found
      exact ⟨fun c member => kept_of_mem_percentEncode escapes member,
        fun c member => kept_of_mem_percentEncode escapes member⟩

theorem port_of_readPort {port : Option Nat} (found : readPort scheme text = .ok (port, rest)) :
    ∀ number ∈ port, number ≤ 65535 ∧ usualPort? scheme ≠ some number := by
  rw [readPort] at found
  split at found
  · cases found
  · next fits =>
      split at found
      · cases found
      · split at found
        · cases found
          simp
        · next unusual =>
            cases found
            rintro number ⟨⟩
            simp only [Bool.or_eq_true, beq_iff_eq, not_or] at unusual
            exact ⟨by omega, unusual.2⟩

end Read

end TypedEnv.Url

import Possession.Proofs.Outcome
import Possession.Proofs.Text.Split
import Possession.Target

/-!
# User, host and port

The part of a URL that holds user, host and port is read up to the character that ends it, and
nothing behind that character matters. A user in front matters only where there is no host: what
stands behind the last `@` is read as the same host and port on its own.
-/

namespace Possession

/-! ## Users -/

namespace Target

theorem dropUser_of_not_mem {chars : List Char} (h : '@' ∉ chars) : dropUser chars = chars := by
  have hall : ∀ c ∈ chars.reverse, (c != '@') = true :=
    Text.bne_of_not_mem (fun hmem => h (List.mem_reverse.mp hmem))
  rw [dropUser, List.takeWhile_eq_self_iff.mpr hall, List.reverse_reverse]

theorem dropUser_append {host : List Char} (h : '@' ∉ host) (user : List Char) :
    dropUser (user ++ '@' :: host) = host :=
  Text.reverse_takeWhile_reverse h user

/-- A text has no user, or one in front of its last `@`. -/
theorem dropUser_cases (chars : List Char) :
    '@' ∉ chars ∧ dropUser chars = chars ∨
      ∃ user, chars = user ++ '@' :: dropUser chars ∧ '@' ∉ dropUser chars := by
  by_cases h : '@' ∈ chars
  · right
    -- the last at sign is the first one of the reversed text
    rcases List.eq_append_cons_of_mem (List.mem_reverse.mpr h) with ⟨host, user, hchars, hhost⟩
    have hsplit : chars = user.reverse ++ '@' :: host.reverse := by
      rw [← List.reverse_reverse chars, hchars]
      simp
    have hfree : '@' ∉ host.reverse := fun hmem => hhost (List.mem_reverse.mp hmem)
    refine ⟨user.reverse, ?_, ?_⟩
    · rw [hsplit, dropUser_append hfree]
    · rw [hsplit, dropUser_append hfree]
      exact hfree
  · exact Or.inl ⟨h, dropUser_of_not_mem h⟩

theorem mem_of_mem_dropUser {chars : List Char} {c : Char} (h : c ∈ dropUser chars) : c ∈ chars := by
  rcases dropUser_cases chars with ⟨-, hsame⟩ | ⟨user, huser, -⟩
  · rwa [hsame] at h
  · rw [huser]
    simp [h]

/-- No user is left. -/
theorem not_mem_dropUser (chars : List Char) : '@' ∉ dropUser chars := by
  rcases dropUser_cases chars with ⟨hat, hsame⟩ | ⟨user, -, hat⟩
  · rwa [hsame]
  · exact hat

end Target

namespace Url

/-- Nothing follows, or something that ends the part that holds user and host. -/
def Stops (special : Bool) (more : List Char) : Prop :=
  ∀ c, more.head? = some c → endsAuthority special c = true

theorem Stops.nil (special : Bool) : Stops special [] := by
  intro c hc
  cases hc

theorem Stops.cons {special : Bool} {c : Char} (h : endsAuthority special c = true)
    (more : List Char) : Stops special (c :: more) := by
  intro d hd
  cases hd
  exact h

theorem endsAuthority_true {special : Bool} {c : Char} (h : endsAuthority special c = true) :
    endsAuthority true c = true := by
  cases special with
  | true => exact h
  | false =>
    simp only [endsAuthority, Bool.false_and, Bool.or_false] at h
    simp [endsAuthority, h]

/-- The part up to the character that ends it is the part itself. -/
theorem takeWhile_authority {special : Bool} {part more : List Char}
    (hpart : ∀ c ∈ part, endsAuthority special c = false) (hmore : Stops special more) :
    (part ++ more).takeWhile (fun c => !endsAuthority special c) = part := by
  have hall : ∀ c ∈ part, (!endsAuthority special c) = true := by
    intro c hc
    simp [hpart c hc]
  cases more with
  | nil => rw [List.append_nil, List.takeWhile_eq_self_iff.mpr hall]
  | cons c more =>
    have hstop : (!endsAuthority special c) = false := by simp [hmore c rfl]
    exact Text.takeWhile_append_cons hall hstop more

theorem splitLast_of_not_mem {c : Char} {chars : List Char} (h : c ∉ chars) :
    splitLast c chars = none := by
  rw [splitLast, if_neg (by simpa using h)]

theorem splitLast_append {c : Char} {back : List Char} (h : c ∉ back) (front : List Char) :
    splitLast c (front ++ c :: back) = some (front, back) := by
  have hlength : (front ++ c :: back).length - back.length - 1 = front.length := by
    simp only [List.length_append, List.length_cons]
    omega
  rw [splitLast, if_pos (by simp)]
  simp only [Text.reverse_takeWhile_reverse h front, hlength, List.take_left]

/-- Goes on behind a user, which may be empty where something else follows. -/
def readBehindUser (special : Bool) (user rest : List Char) : Except Fault (Bool × List Char) :=
  if user.isEmpty then
    match rest with
    | c :: _ => if endsAuthority special c then .error .emptyHost else .ok (false, rest)
    | [] => .ok (false, rest)
  else .ok (namesUser user, rest)

section Users

variable {special : Bool} {part more : List Char}
  (hpart : ∀ c ∈ part, endsAuthority special c = false) (hmore : Stops special more)

include hpart hmore

theorem readUser_of_not_mem (hat : '@' ∉ part) :
    readUser special (part ++ more) = .ok (false, part ++ more) := by
  rw [readUser, takeWhile_authority hpart hmore, splitLast_of_not_mem hat]

theorem readUser_of_user {user host : List Char} (hsplit : part = user ++ '@' :: host)
    (hat : '@' ∉ host) :
    readUser special (part ++ more) = readBehindUser special user (host ++ more) := by
  have hlast : splitLast '@' part = some (user, host) := by
    rw [hsplit, splitLast_append hat]
  rw [readUser, takeWhile_authority hpart hmore, hlast]
  simp only [List.drop_left]
  rfl

end Users

/-! ## Host and port -/

/-- The host that a text denotes; schemes with rules of their own want one. -/
def readHost (special : Bool) (text : List Char) : Except Fault Host :=
  if special then if text.isEmpty then .error .emptyHost else Host.parse text
  else Host.parseOpaque text

/-- Goes on behind a host; `named` says whether there was a user in front of it. -/
def readBehindHost (scheme : List Char) (named : Bool) (host : Host) :
    List Char → Except Fault Url
  | ':' :: rest =>
    if host.isEmpty then .error .emptyHost
    else (readPort (impliedPort? scheme) rest).map fun port => ⟨scheme, some host, port⟩
  | _ =>
    if host.isEmpty then if named then .error .emptyHost else .ok ⟨scheme, none, none⟩
    else .ok ⟨scheme, some host, none⟩

/-- Reads host and port behind the user. -/
def readHostPort (scheme : List Char) (special named : Bool) (chars : List Char) :
    Except Fault Url :=
  let text := takeHost special false chars
  readHost special text >>= fun host =>
    readBehindHost scheme named host (chars.drop text.length)

theorem readAuthority_eq (scheme : List Char) (special : Bool) (chars : List Char) :
    readAuthority scheme special chars = (readUser special chars >>= fun (named, rest) =>
      readHostPort scheme special named rest) := by
  rw [readAuthority]
  congr 1
  funext ⟨named, rest⟩
  -- the last match of the reader is a function of the host and what stands behind it
  have hbehind (host : Host) (behind : List Char) :
      (match behind with
        | ':' :: rest =>
          if host.isEmpty then throw .emptyHost
          else do
            let port ← readPort (impliedPort? scheme) rest
            pure ⟨scheme, some host, port⟩
        | _ =>
          if host.isEmpty then if named then throw .emptyHost else pure ⟨scheme, none, none⟩
          else pure ⟨scheme, some host, none⟩ : Except Fault Url) =
        readBehindHost scheme named host behind := by
    rw [readBehindHost.eq_def]
    split
    · split
      · rfl
      · cases readPort (impliedPort? scheme) _ <;> rfl
    · rfl
  cases special with
  | true =>
    simp only [readHostPort, readHost, if_true, Bool.true_and]
    split
    · rfl
    · cases Host.parse (takeHost true false rest) with
      | error fault => rfl
      | ok host => exact hbehind host _
  | false =>
    simp only [readHostPort, readHost, Bool.false_and, Bool.false_eq_true, if_false]
    cases Host.parseOpaque (takeHost false false rest) with
    | error fault => rfl
    | ok host => exact hbehind host _

theorem takeHost_append {special : Bool} {more : List Char} (hmore : Stops special more)
    (bracketed : Bool) (chars : List Char) :
    takeHost special bracketed (chars ++ more) = takeHost special bracketed chars := by
  induction chars generalizing bracketed with
  | nil =>
    cases more with
    | nil => rfl
    -- what ends the part ends the host as well, inside brackets or not
    | cons c more => simp [takeHost, hmore c rfl]
  | cons c chars ih =>
    rw [List.cons_append, takeHost, takeHost, ih]

theorem takeHost_starts (special bracketed : Bool) (chars : List Char) :
    takeHost special bracketed chars <+: chars := by
  induction chars generalizing bracketed with
  | nil => exact List.prefix_rfl
  | cons c chars ih =>
    rw [takeHost]
    split
    · exact List.nil_prefix
    · exact (List.prefix_cons_inj c).mpr (ih _)

theorem isDigit_of_endsAuthority {special : Bool} {c : Char} (h : endsAuthority special c = true) :
    c.isDigit = false := by
  simp only [endsAuthority, Bool.or_eq_true, Bool.and_eq_true, beq_iff_eq] at h
  rcases h with ((rfl | rfl) | rfl) | ⟨-, rfl⟩ <;> decide

theorem readPort_append {special : Bool} {more : List Char} (hmore : Stops special more)
    (implied : Option Nat) (chars : List Char) :
    readPort implied (chars ++ more) = readPort implied chars := by
  -- a port ends at its first character that is no digit, in the text or behind it
  rcases Text.all_or_first Char.isDigit chars with
    hall | ⟨digits, stop, rest, rfl, hdigits, hstop⟩
  · have htake : (chars ++ more).takeWhile Char.isDigit = chars := by
      cases more with
      | nil => rw [List.append_nil, List.takeWhile_eq_self_iff.mpr hall]
      | cons c more =>
        exact Text.takeWhile_append_cons hall (isDigit_of_endsAuthority (hmore c rfl)) more
    rw [readPort, readPort, htake, List.takeWhile_eq_self_iff.mpr hall, List.drop_left,
      List.drop_length]
    cases more with
    | nil => rfl
    | cons c more => simp only [endsAuthority_true (hmore c rfl), if_true]
  · have hwhole : digits ++ stop :: rest ++ more = digits ++ stop :: (rest ++ more) := by simp
    rw [readPort, readPort, hwhole, Text.takeWhile_append_cons hdigits hstop,
      Text.takeWhile_append_cons hdigits hstop, List.drop_left, List.drop_left]

theorem ne_colon_of_endsAuthority {special : Bool} {c : Char}
    (h : endsAuthority special c = true) : c ≠ ':' := by
  rintro rfl
  cases special <;> exact absurd h (by decide)

theorem readBehindHost_append {special : Bool} {more : List Char} (hmore : Stops special more)
    (scheme : List Char) (named : Bool) (host : Host) (rest : List Char) :
    readBehindHost scheme named host (rest ++ more) = readBehindHost scheme named host rest := by
  cases rest with
  | nil =>
    cases more with
    | nil => rfl
    | cons c more =>
      have hcolon := ne_colon_of_endsAuthority (hmore c rfl)
      simp [readBehindHost, hcolon]
  | cons c rest =>
    by_cases hcolon : c = ':'
    · subst hcolon
      simp only [List.cons_append, readBehindHost, readPort_append hmore]
    · simp [readBehindHost, hcolon]

/-- What is read behind the user does not depend on what follows the end of the part. -/
theorem readHostPort_append {special : Bool} {more : List Char} (hmore : Stops special more)
    (scheme : List Char) (named : Bool) (chars : List Char) :
    readHostPort scheme special named (chars ++ more) =
      readHostPort scheme special named chars := by
  have hdrop : (chars ++ more).drop (takeHost special false chars).length =
      chars.drop (takeHost special false chars).length ++ more :=
    List.drop_append_of_le_length (takeHost_starts special false chars).length_le
  rw [readHostPort, readHostPort, takeHost_append hmore]
  simp only [hdrop, readBehindHost_append hmore]

/-- Whether there was a user matters only where there is no host. -/
theorem readHostPort_unnamed {scheme chars : List Char} {special named : Bool} {url : Url}
    (h : readHostPort scheme special named chars = .ok url) :
    readHostPort scheme special false chars = .ok url := by
  rw [readHostPort, Outcome.bind_eq_ok_iff] at h ⊢
  rcases h with ⟨host, hhost, h⟩
  refine ⟨host, hhost, ?_⟩
  rw [readBehindHost.eq_def] at h ⊢
  split at h
  · exact h
  · cases named with
    | false => exact h
    -- a user without a host is an error, so this was none
    | true =>
      split at h
      · cases h
      · rename_i hsome
        simpa [hsome] using h

/-! ## The whole part -/

section Parts

variable {scheme part more : List Char} {special : Bool}
  (hpart : ∀ c ∈ part, endsAuthority special c = false)

include hpart

theorem readAuthority_of_not_mem (hmore : Stops special more) (hat : '@' ∉ part) :
    readAuthority scheme special (part ++ more) = readHostPort scheme special false part := by
  rw [readAuthority_eq, readUser_of_not_mem hpart hmore hat, Outcome.ok_bind]
  exact readHostPort_append hmore scheme false part

/-- What is read of the part is read of what stands behind its user as well. -/
theorem readAuthority_dropUser {url : Url} (hmore : Stops special more)
    (h : readAuthority scheme special (part ++ more) = .ok url) :
    readHostPort scheme special false (Target.dropUser part) = .ok url := by
  rcases Target.dropUser_cases part with ⟨hat, hsame⟩ | ⟨user, hsplit, hat⟩
  · rw [hsame, ← readAuthority_of_not_mem hpart hmore hat]
    exact h
  · rw [readAuthority_eq, readUser_of_user hpart hmore hsplit hat] at h
    -- an empty user is no matter, and a named one only where there is no host
    obtain ⟨named, hnamed⟩ : ∃ named, readHostPort scheme special named
        (Target.dropUser part ++ more) = .ok url := by
      rw [readBehindUser.eq_def] at h
      split at h
      · split at h
        · split at h
          · cases h
          · exact ⟨false, h⟩
        · exact ⟨false, h⟩
      · exact ⟨_, h⟩
    rw [readHostPort_append hmore] at hnamed
    exact readHostPort_unnamed hnamed

/-- Nothing behind the end of the part is read. -/
theorem readAuthority_cons {stop : Char} (hstop : endsAuthority special stop = true)
    (back other : List Char) :
    readAuthority scheme special (part ++ stop :: back) =
      readAuthority scheme special (part ++ stop :: other) := by
  have hback : Stops special (stop :: back) := Stops.cons hstop back
  have hother : Stops special (stop :: other) := Stops.cons hstop other
  rcases Target.dropUser_cases part with ⟨hat, -⟩ | ⟨user, hsplit, hat⟩
  · rw [readAuthority_of_not_mem hpart hback hat, readAuthority_of_not_mem hpart hother hat]
  · rw [readAuthority_eq, readAuthority_eq, readUser_of_user hpart hback hsplit hat,
      readUser_of_user hpart hother hsplit hat]
    have hsame (named : Bool) : readHostPort scheme special named
        (Target.dropUser part ++ stop :: back) = readHostPort scheme special named
          (Target.dropUser part ++ stop :: other) := by
      rw [readHostPort_append hback, readHostPort_append hother]
    -- an empty user is only allowed if something else than the end follows
    cases user with
    | cons c user => exact hsame (namesUser (c :: user))
    | nil =>
      cases hhost : Target.dropUser part with
      | nil => simp [readBehindUser, hstop]
      | cons c host =>
        rw [hhost] at hsame
        simp only [readBehindUser, List.isEmpty_nil, if_true, List.cons_append]
        split
        · rfl
        · exact hsame false

end Parts

end Url
end Possession

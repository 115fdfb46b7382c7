import Locator.Proofs.Url.Host.Reading
import Locator.Proofs.Url.Reading

/-! Authorities under special schemes: what reading one makes of it, and that it is read back from
its written form. -/

namespace Locator

namespace Component

/-- What a user name keeps lies within ASCII. -/
theorem toNat_lt_of_inUserinfo {c : Char} (kept : inUserinfo c) : c.toNat < 128 := by
  -- Every kept character is visible ASCII.
  simp only [inUserinfo, inPath, inFragment, isPlain, Bool.and_eq_true, decide_eq_true_eq] at kept
  omega

/-- What a user name keeps is visible and separates nothing in an authority. -/
theorem free_of_inUserinfo {c : Char} (kept : inUserinfo c) :
    Ascii.isControlOrSpace c = false ∧ Url.endsAuthority true c = false ∧ c ≠ '@' ∧ c ≠ ':' := by
  -- Every separator is given up.
  have every : ∀ c : Char, c.toNat < 128 → inUserinfo c →
      Ascii.isControlOrSpace c = false ∧ Url.endsAuthority true c = false ∧ c ≠ '@' ∧ c ≠ ':' :=
    Ascii.forall_of_lt (by decide)
  exact every c (toNat_lt_of_inUserinfo kept) kept

end Component

namespace Authority

/-- An authority that reading leaves as it is, under a scheme with a host. -/
structure IsSettled (scheme : String) (authority : Authority) : Prop where
  /-- The user name is encoded. -/
  username : ∀ c ∈ authority.username.toList, Component.inUserinfo c
  /-- The password is encoded. -/
  password : ∀ c ∈ authority.password.toList, Component.inUserinfo c
  /-- The host was read from a text. -/
  host : ∃ host, authority.host = some host ∧ ∃ text, Host.readSpecial text = .ok host
  /-- The port is not the default one. -/
  port : ∀ port ∈ authority.port, Scheme.defaultPort? scheme ≠ some port

/-- A port that is read is not the default one. -/
theorem ne_default_of_readPort {scheme : String} {text rest : List Char} {port : Option UInt16}
    (read : readPort scheme text = .ok (port, rest)) :
    ∀ number ∈ port, Scheme.defaultPort? scheme ≠ some number := by
  -- The reader drops the default port itself.
  unfold readPort at read
  simp only at read
  split at read
  · cases read
  · split at read
    · cases read
    · split at read
      · cases read
        simp
      · rename_i other
        cases read
        rintro number ⟨⟩ default
        exact other (.inr default)

/-- Where the parts of an authority that was read come from: the user in front of the last at sign,
the host in front of the colon, and the port behind it. -/
theorem exists_of_read {scheme : String} {text after rest : List Char} {authority : Authority}
    (read : Authority.read scheme text after = .ok (authority, rest)) :
    ∃ hostText behind remaining, splitHost false (splitUserinfo text).2 = (hostText, behind) ∧
      readUserinfo ((splitUserinfo text).1.getD []) = (authority.username, authority.password) ∧
      Host.read (Scheme.isSpecial scheme) hostText = .ok authority.host ∧
      rest = remaining ++ after ∧
      (authority.port = none ∧ remaining = behind ∨
        ∃ digits, behind = ':' :: digits ∧
          readPort scheme digits = .ok (authority.port, remaining)) := by
  unfold Authority.read at read
  simp only [bind, Except.bind, pure, Except.pure, throw, throwThe, MonadExceptOf.throw] at read
  -- Every check that fails refuses the text, so only the last branch of each is left.
  split at read
  · cases read
  split at read
  · cases read
  split at read
  · cases read
  rename_i host spelled
  split at read
  · cases read
  split at read
  · -- A colon behind the host announces a port.
    rename_i digits colon
    split at read
    · cases read
    rename_i port counted
    split at read
    · cases read
    · cases read
      exact ⟨_, _, _, rfl, rfl, spelled, rfl, .inr ⟨digits, colon, counted⟩⟩
  · -- Without a colon there is no port.
    split at read
    · cases read
    · cases read
      exact ⟨_, _, _, rfl, rfl, spelled, rfl, .inl ⟨rfl, rfl⟩⟩

/-- What is read as an authority is settled. -/
theorem isSettled_of_read {scheme : String} (special : Scheme.isSpecial scheme = true)
    {text after rest : List Char} {authority : Authority}
    (read : Authority.read scheme text after = .ok (authority, rest)) :
    authority.IsSettled scheme := by
  obtain ⟨hostText, _, _, -, credentials, spelled, -, counted⟩ := exists_of_read read
  have username := congrArg Prod.fst credentials
  have password := congrArg Prod.snd credentials
  simp only [readUserinfo] at username password
  -- Each field is settled by the reader that it comes from.
  refine ⟨?_, ?_, ?_, ?_⟩
  · rw [← username]
    exact Component.kept_of_mem_encode (by decide) (by decide)
  · rw [← password]
    exact Component.kept_of_mem_encode (by decide) (by decide)
  · rw [special] at spelled
    obtain ⟨host, named, inner⟩ := Host.exists_of_read spelled
    exact ⟨host, named, hostText, inner⟩
  · rcases counted with ⟨none, -⟩ | ⟨digits, -, counted⟩
    · simp [none]
    · exact ne_default_of_readPort counted

/-- Without an at sign there is no user name. -/
theorem splitUserinfo_of_not_mem {text : List Char} (absent : '@' ∉ text) :
    splitUserinfo text = (none, text) := by
  -- The text is searched from its end, and there is nothing to find.
  have found : splitFirst '@' text.reverse = none :=
    splitFirst_eq_none_iff.mpr (by simpa using absent)
  rw [splitUserinfo, found]

/-- The last at sign ends the user name and the password. -/
theorem splitUserinfo_append {userinfo text : List Char} (absent : '@' ∉ text) :
    splitUserinfo (userinfo ++ '@' :: text) = (some userinfo, text) := by
  -- The sign found first from the end is the one in front of the text, which has none.
  have found : splitFirst '@' (userinfo ++ '@' :: text).reverse =
      some (text.reverse, userinfo.reverse) := by
    rw [splitFirst_eq_some_iff]
    exact ⟨by simpa using absent, by simp⟩
  rw [splitUserinfo, found]
  simp

/-- The user name and the password as they stand before the at sign. -/
def userinfo (authority : Authority) : List Char :=
  authority.username.toList ++
    marked ':' (if authority.password = "" then none else some authority.password.toList)

/-- The credentials end in an at sign, when there are any. -/
theorem toList_credentials (authority : Authority) :
    authority.credentials.toList =
      if authority.username = "" ∧ authority.password = "" then []
      else authority.userinfo ++ ['@'] := by
  -- Either text may be missing, and without both there is no at sign.
  unfold credentials userinfo
  by_cases username : authority.username = ""
  · by_cases password : authority.password = ""
    · simp [username, password]
    · simp [username, password, marked]
  · by_cases password : authority.password = ""
    · simp [username, password, marked]
    · simp [username, password, marked]

/-- The port as it stands behind the host. -/
def portText (authority : Authority) : List Char :=
  marked ':' (authority.port.map fun port => Nat.toDigits 10 port.toNat)

/-- The written form is made of the credentials, the host and the port. -/
theorem toList_text {authority : Authority} {host : Host} (named : authority.host = some host) :
    authority.text.toList =
      authority.credentials.toList ++ (host.text.toList ++ authority.portText) := by
  -- The port has its colon, or neither is there.
  unfold text portText
  cases authority.port <;> simp [named, marked]

namespace IsSettled

variable {scheme : String} {authority : Authority}

/-- A settled authority may have any host that was read. -/
theorem withHost (settled : authority.IsSettled scheme) {host : Host} {text : List Char}
    (read : Host.readSpecial text = .ok host) :
    { authority with host := some host }.IsSettled scheme :=
  ⟨settled.username, settled.password, ⟨host, rfl, text, read⟩, settled.port⟩

/-- A settled authority may have any port but the default one, also under another scheme. -/
theorem withPort (settled : authority.IsSettled scheme) {other : String} {port : Option UInt16}
    (kept : ∀ number ∈ port, Scheme.defaultPort? other ≠ some number) :
    { authority with port }.IsSettled other :=
  ⟨settled.username, settled.password, settled.host, kept⟩

/-- The user name and the password are read back from their encoded forms. -/
theorem readUserinfo_userinfo (settled : authority.IsSettled scheme) :
    readUserinfo authority.userinfo = (authority.username, authority.password) := by
  -- The user name holds no colon.
  have whole : ':' ∉ authority.username.toList := fun member =>
    (Component.free_of_inUserinfo (settled.username ':' member)).2.2.2 rfl
  have username : Component.encode Component.inUserinfo authority.username.toList =
      authority.username := by
    rw [Component.encode_of_kept settled.username, String.ofList_toList]
  have password : Component.encode Component.inUserinfo authority.password.toList =
      authority.password := by
    rw [Component.encode_of_kept settled.password, String.ofList_toList]
  unfold readUserinfo
  by_cases none : authority.password = ""
  · -- An empty password is not written, nor is its colon.
    have written : authority.userinfo = authority.username.toList := by
      simp [userinfo, none, marked]
    rw [written, splitFirst_eq_none_iff.mpr whole, none]
    simp only [Option.getD_none, username]
    rfl
  · -- The first colon stands in front of the password.
    have written : authority.userinfo =
        authority.username.toList ++ ':' :: authority.password.toList := by
      simp [userinfo, none, marked]
    rw [written, splitFirst_append _ whole]
    simp only [Option.getD_some, username, password]

/-- The credentials are taken off the front of a host and its port. -/
theorem splitUserinfo_credentials (settled : authority.IsSettled scheme) {text : List Char}
    (absent : '@' ∉ text) :
    ∃ written, splitUserinfo (authority.credentials.toList ++ text) = (written, text) ∧
      readUserinfo (written.getD []) = (authority.username, authority.password) := by
  rw [toList_credentials]
  split
  · -- Without credentials there is no at sign at all.
    rename_i anonymous
    refine ⟨none, splitUserinfo_of_not_mem absent, ?_⟩
    rw [anonymous.1, anonymous.2]
    rfl
  · refine ⟨some authority.userinfo, ?_, settled.readUserinfo_userinfo⟩
    rw [List.append_assoc, List.singleton_append, splitUserinfo_append absent]

/-- The characters of a written port are the colon and digits. -/
theorem mem_portText {c : Char} (member : c ∈ authority.portText) : c = ':' ∨ c.isDigit := by
  -- Without a port nothing is written.
  unfold portText at member
  cases port : authority.port with
  | none => simp [port, marked] at member
  | some number =>
    rw [port] at member
    rcases List.mem_cons.mp member with same | digit
    · exact .inl same
    · exact .inr (Nat.isDigit_of_mem_toDigits (by decide) (by decide) digit)

/-- The port is read back from its digits. -/
theorem readPort_toDigits {port : UInt16} (other : Scheme.defaultPort? scheme ≠ some port) :
    readPort scheme (Nat.toDigits 10 port.toNat) = .ok (some port, []) := by
  -- All of the text is digits, so nothing is left over.
  have digits : ∀ c ∈ Nat.toDigits 10 port.toNat, c.isDigit := fun c member =>
    Nat.isDigit_of_mem_toDigits (by decide) (by decide) member
  have taken : (Nat.toDigits 10 port.toNat ++ []).takeWhile Char.isDigit =
      Nat.toDigits 10 port.toNat ++ [] := List.takeWhile_append_of_pos digits
  have left : (Nat.toDigits 10 port.toNat ++ []).dropWhile Char.isDigit = [] :=
    List.dropWhile_append_of_pos digits
  rw [List.append_nil] at taken left
  have small : ¬ 65535 < port.toNat := by
    have bound := port.toNat_lt
    omega
  rw [readPort]
  simp only [taken, left, Ascii.decimalValue_toDigits, UInt16.ofNat_toNat]
  simp [small, other]

/-- A settled authority is read back from its written form, whatever follows it. -/
theorem read_text (settled : authority.IsSettled scheme) (special : Scheme.isSpecial scheme = true)
    {host : Host} (named : authority.host = some host) (readBack : host.IsReadBack)
    (after : List Char) :
    Authority.read scheme authority.text.toList after = .ok (authority, after) := by
  -- The port is announced by the colon that ends the host.
  have ends : ∀ c ∈ authority.portText.head?, c = ':' := by
    unfold portText
    cases authority.port <;> simp [marked]
  -- The credentials end at the last at sign, since there is none behind them.
  have absent : '@' ∉ host.text.toList ++ authority.portText := by
    intro member
    rcases List.mem_append.mp member with inside | behind
    · exact (readBack.free '@' inside).2.2 rfl
    · exact absurd (mem_portText behind) (by decide)
  obtain ⟨written, split, credentials⟩ := settled.splitUserinfo_credentials absent
  -- The host is read back from its text.
  have read : Host.read (Scheme.isSpecial scheme) host.text.toList = .ok (some host) := by
    rw [Host.read, if_pos special, readBack.read]
    rfl
  have filled := readBack.filled
  have rebuilt : (⟨authority.username, authority.password, some host, authority.port⟩ : Authority) =
      authority := by rw [← named]
  rw [toList_text named]
  unfold Authority.read
  simp only [bind, Except.bind, pure, Except.pure, throw, throwThe, MonadExceptOf.throw, split,
    credentials, readBack.split _ ends, read]
  rw [if_neg (by simp [filled]), if_neg (by simp [filled]), if_neg (by simp)]
  unfold portText
  cases port : authority.port with
  | none =>
    rw [port] at rebuilt
    simp [marked, rebuilt]
  | some number =>
    -- The port is no default, and so it is kept as it was counted.
    have counted := readPort_toDigits (settled.port number port)
    rw [port] at rebuilt
    simp [marked, counted, rebuilt]

/-- The characters of the credentials are kept ones, or marks that end them. -/
theorem mem_credentials (settled : authority.IsSettled scheme) {c : Char}
    (member : c ∈ authority.credentials.toList) : Component.inUserinfo c ∨ c = ':' ∨ c = '@' := by
  -- The two encoded texts stand around a colon and in front of the at sign.
  rw [toList_credentials] at member
  split at member
  · simp at member
  · simp only [userinfo, List.mem_append, List.mem_singleton] at member
    rcases member with (inside | behind) | same
    · exact .inl (settled.username c inside)
    · split at behind
      · simp [marked] at behind
      · rcases List.mem_cons.mp behind with same | inside
        · exact .inr (.inl same)
        · exact .inl (settled.password c inside)
    · exact .inr (.inr same)

/-- The written form of a settled authority is read as that authority. -/
theorem isReadFrom_text (settled : authority.IsSettled scheme)
    (special : Scheme.isSpecial scheme = true) {host : Host} (named : authority.host = some host)
    (readBack : host.IsReadBack) : authority.IsReadFrom scheme authority.text.toList := by
  -- Nothing in the credentials, in the host or in the port is blank or ends the authority.
  have free : ∀ c ∈ authority.text.toList,
      Ascii.isControlOrSpace c = false ∧ Url.endsAuthority true c = false := by
    intro c member
    rw [toList_text named, List.mem_append, List.mem_append] at member
    rcases member with front | inside | behind
    · -- The credentials are encoded, and a colon and an at sign are added to them.
      rcases settled.mem_credentials front with kept | same | same
      · obtain ⟨shown, inner, -⟩ := Component.free_of_inUserinfo kept
        exact ⟨shown, inner⟩
      · exact same ▸ (by decide)
      · exact same ▸ (by decide)
    · obtain ⟨shown, inner, -⟩ := readBack.free c inside
      exact ⟨shown, inner⟩
    · -- A port is a colon and digits.
      have every : ∀ c : Char, c.toNat < 128 → c.isDigit →
          Ascii.isControlOrSpace c = false ∧ Url.endsAuthority true c = false :=
        Ascii.forall_of_lt (by decide)
      rcases mem_portText behind with same | digit
      · exact same ▸ (by decide)
      · exact every c (Ascii.toNat_lt_of_isAlphanum (by simp [Char.isAlphanum, digit])) digit
  refine ⟨?_, fun c member => (free c member).1, fun c member => (free c member).2,
    settled.read_text special named readBack⟩
  rw [toList_text named]
  simp [readBack.filled]

end IsSettled

end Authority

end Locator

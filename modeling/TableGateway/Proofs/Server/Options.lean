import Mathlib.Data.List.TakeWhile
import TableGateway.Proofs.Number.Numeral
import TableGateway.Server.Link

/-!
# Links described by URLs

A user, a password and a database can be any text if their bytes are escaped.  The URL that is
written from them, a plain host and the number of a service describes just that link.
-/

namespace TableGateway

open Text

/-! ## Escaped text -/

theorem Text.ofUtf8_utf8 (s : String) : ofUtf8 (utf8 s) = .ok s := by
  have hvalid : s.toByteArray.IsValidUTF8 := s.isValidUTF8
  have hread : ofUtf8? (utf8 s) = some s := by
    simp only [ofUtf8?, utf8, Array.toArray_toList]
    exact dif_pos hvalid
  rw [ofUtf8, hread]

theorem Text.utf8_of_ascii {cs : List Char} (h : ∀ c ∈ cs, c.toNat < 128) :
    utf8 (String.ofList cs) = cs.map fun c => UInt8.ofNat c.toNat := by
  have hflat : utf8 (String.ofList cs) = cs.flatMap String.utf8EncodeChar := by
    simp [utf8, List.utf8Encode]
  rw [hflat, List.map_eq_flatMap]
  refine List.flatMap_congr fun c hc => ?_
  have hsmall : c.val.toNat ≤ 127 := Nat.le_of_lt_succ (h c hc)
  unfold String.utf8EncodeChar
  exact if_pos hsmall

namespace Url

variable {cs rest : List Char}

def escape (bytes : List UInt8) : List Char :=
  bytes.flatMap fun b => ['%', hexDigit (b.toNat / 16), hexDigit (b.toNat % 16)]

theorem digitOfByte?_hexDigit : ∀ n < 16,
    digitOfByte? (UInt8.ofNat (hexDigit n).toNat) = some n := by
  decide

theorem unescapeBytes_escaped (b : UInt8) (rest : List UInt8) :
    unescapeBytes (0x25 :: UInt8.ofNat (hexDigit (b.toNat / 16)).toNat ::
      UInt8.ofNat (hexDigit (b.toNat % 16)).toNat :: rest) = b :: unescapeBytes rest := by
  have hbyte : b.toNat < 256 := b.toNat_lt
  have hhigh := digitOfByte?_hexDigit (b.toNat / 16) (by omega)
  have hlow := digitOfByte?_hexDigit (b.toNat % 16) (by omega)
  simp only [unescapeBytes, hhigh, hlow, if_pos, Nat.div_add_mod, UInt8.ofNat_toNat]

/-- What can stand in any part of a URL without a meaning of its own. -/
def IsInner (c : Char) : Prop :=
  isReserved c = false ∧ 0x20 < c.toNat

theorem isInner_hexDigit : ∀ n < 16, IsInner (hexDigit n) ∧ (hexDigit n).toNat < 128 := by
  unfold IsInner
  decide

theorem inner_escape (bytes : List UInt8) :
    ∀ c ∈ escape bytes, IsInner c ∧ c.toNat < 128 := by
  intro c hc
  obtain ⟨b, -, hc⟩ := List.mem_flatMap.mp hc
  have hbyte : b.toNat < 256 := b.toNat_lt
  simp only [List.mem_cons, List.not_mem_nil, or_false] at hc
  rcases hc with rfl | rfl | rfl
  · unfold IsInner
    decide
  · exact isInner_hexDigit _ (by omega)
  · exact isInner_hexDigit _ (by omega)

theorem unescape_escape (bytes : List UInt8) : unescape (escape bytes) = bytes := by
  rw [unescape, utf8_of_ascii fun c hc => (inner_escape bytes c hc).2]
  induction bytes with
  | nil => rfl
  | cons b bytes ih =>
      rw [escape, List.flatMap_cons, List.map_append] at *
      exact (unescapeBytes_escaped b _).trans (congrArg (b :: ·) ih)

theorem ne_of_isInner {c d : Char} (h : IsInner c) (hd : isReserved d = true) : c ≠ d := by
  rintro rfl
  rw [h.1] at hd
  contradiction

theorem not_isDigit_of_isReserved (c : Char) (h : isReserved c = true) : isDigit c = false := by
  rw [isReserved, List.contains_iff_mem] at h
  have hnone := (List.all_eq_true (p := fun d => !isDigit d)).mp (by decide) c h
  simpa using hnone

theorem isInner_of_mem_decimal {n : Nat} {c : Char} (h : c ∈ decimal n) : IsInner c := by
  have hdigit : isDigit c = true := List.all_eq_true.mp (all_isDigit_decimal n) c h
  constructor
  · by_contra hreserved
    rw [not_isDigit_of_isReserved c (by simpa using hreserved)] at hdigit
    contradiction
  · simp only [isDigit, Bool.and_eq_true, decide_eq_true_eq] at hdigit
    omega

/-! ## Parts of a URL -/

theorem stripped_of_inner (h : ∀ c ∈ cs, 0x20 < c.toNat) : stripped cs = cs := by
  have houter : ∀ ds : List Char, (∀ c ∈ ds, 0x20 < c.toNat) →
      (ds.dropWhile fun c => decide (c.toNat ≤ 0x20)) = ds := by
    intro ds hds
    cases ds with
    | nil => rfl
    | cons d ds => exact List.dropWhile_cons_of_neg (by simpa using hds d List.mem_cons_self)
  simp only [stripped, houter cs h]
  rw [houter cs.reverse (by simpa using h), List.reverse_reverse, List.filter_eq_self]
  intro c hc
  have hc := h c hc
  simp only [Bool.and_eq_true, bne_iff_ne]
  refine ⟨⟨?_, ?_⟩, ?_⟩
  all_goals
    rintro rfl
    exact absurd hc (by decide)

theorem splitScheme?_mysql (rest : List Char) :
    splitScheme? ("mysql:".toList ++ rest) = some ("mysql", rest) := rfl

theorem splitCredentials?_append (h : '@' ∉ rest) :
    splitCredentials? (cs ++ '@' :: rest) = some (cs, rest) := by
  have hrest : ∀ c ∈ rest.reverse, (c != '@') = true := by
    intro c hc
    rw [bne_iff_ne]
    rintro rfl
    exact h (List.mem_reverse.mp hc)
  rw [splitCredentials?, if_pos (by simp)]
  simp [List.takeWhile_append_of_pos hrest, List.dropWhile_append_of_pos hrest]

theorem splitHost_append (h : ∀ c ∈ cs, c ≠ ':' ∧ c ≠ '[') (rest : List Char) :
    splitHost false (cs ++ ':' :: rest) = (cs, ':' :: rest) := by
  induction cs with
  | nil => rfl
  | cons c cs ih =>
      rw [List.forall_mem_cons] at h
      obtain ⟨⟨hcolon, hbracket⟩, hrest⟩ := h
      have hopen : (c == '[') = false := by simpa using hbracket
      simp [splitHost, hcolon, hopen, ih hrest]

theorem serviceOf_decimal {n : Nat} (h : n ≤ 65535) :
    serviceOf (':' :: decimal n) = .ok (some n, []) := by
  have hspan : spanDigits (decimal n) = (decimal n, []) := by
    have happend : spanDigits (decimal n ++ []) = (decimal n, []) :=
      spanDigits_decimal_append n (by simp)
    rwa [List.append_nil] at happend
  have hne : (decimal n).isEmpty = false := by
    simpa using decimal_ne_nil n
  simp [serviceOf, hspan, ofDigits_decimal, hne, Nat.not_lt.mpr h]

theorem splitQuery_of_inner (h : ∀ c ∈ cs, c ≠ '#' ∧ c ≠ '?') :
    splitQuery cs = (cs, none) := by
  have hnumber : cs.takeWhile (· != '#') = cs :=
    List.takeWhile_eq_self_iff.mpr fun c hc => by simpa using (h c hc).1
  have hquestion : cs.dropWhile (· != '?') = [] :=
    List.dropWhile_eq_nil_iff.mpr fun c hc => by simpa using (h c hc).2
  simp only [splitQuery, hnumber, hquestion]

theorem takeWhile_authority (h : ∀ c ∈ cs, endsAuthority .other c = false) (rest : List Char) :
    (cs ++ '/' :: rest).takeWhile (fun c => !endsAuthority .other c) = cs ∧
      (cs ++ '/' :: rest).dropWhile (fun c => !endsAuthority .other c) = '/' :: rest := by
  have hcs : ∀ c ∈ cs, (!endsAuthority .other c) = true := by simpa using h
  rw [List.takeWhile_append_of_pos hcs, List.dropWhile_append_of_pos hcs]
  simp [endsAuthority]

theorem plainHost_of_inner (h : ∀ c ∈ cs, IsInner c) : plainHost cs = .ok cs := by
  have hbracket : cs.head? ≠ some '[' := fun hhead =>
    ne_of_isInner (h _ (List.mem_of_head? hhead)) (by decide : isReserved '[' = true) rfl
  have hreserved : cs.any isReserved = false := by
    simpa using fun c hc => (h c hc).1
  simp [plainHost, hbracket, hreserved]

section Written

/-- Parts of a URL that have no mark in them, with a host and a number that a service can have. -/
structure Plain (user password host database : List Char) (service : Nat) : Prop where
  user_inner : ∀ c ∈ user, IsInner c
  password_inner : ∀ c ∈ password, IsInner c
  host_inner : ∀ c ∈ host, IsInner c
  host_ne : host ≠ []
  database_inner : ∀ c ∈ database, IsInner c
  service_le : service ≤ 65535

variable {user password host database : List Char} {service : Nat}

def authorityChars (user password host : List Char) (service : Nat) (database : List Char) :
    List Char :=
  (user ++ ':' :: password) ++ '@' :: (host ++ ':' :: decimal service) ++ '/' :: database

theorem Plain.mem_authority (h : Plain user password host database service) {c : Char}
    (hc : c ∈ (user ++ ':' :: password) ++ '@' :: (host ++ ':' :: decimal service)) :
    IsInner c ∨ c = ':' ∨ c = '@' := by
  simp only [List.mem_append, List.mem_cons] at hc
  rcases hc with (hc | rfl | hc) | rfl | hc | rfl | hc
  · exact .inl (h.user_inner c hc)
  · exact .inr (.inl rfl)
  · exact .inl (h.password_inner c hc)
  · exact .inr (.inr rfl)
  · exact .inl (h.host_inner c hc)
  · exact .inr (.inl rfl)
  · exact .inl (isInner_of_mem_decimal hc)

theorem Plain.splitHost_eq (h : Plain user password host database service) :
    splitHost false (host ++ ':' :: decimal service) = (host, ':' :: decimal service) := by
  refine splitHost_append (fun c hc => ?_) _
  have hinner := h.host_inner c hc
  exact ⟨ne_of_isInner hinner (by decide), ne_of_isInner hinner (by decide)⟩

theorem Plain.splitQuery_eq (h : Plain user password host database service) :
    splitQuery ('/' :: database) = ('/' :: database, none) := by
  apply splitQuery_of_inner
  rw [List.forall_mem_cons]
  refine ⟨by decide, fun c hc => ?_⟩
  have hinner := h.database_inner c hc
  exact ⟨ne_of_isInner hinner (by decide), ne_of_isInner hinner (by decide)⟩

theorem Plain.withAuthority_eq (h : Plain user password host database service)
    (password : Option (List Char)) :
    withAuthority .other "mysql" user password (host ++ ':' :: decimal service)
        ('/' :: database) =
      .ok ⟨"mysql", user, password, some host, some service, '/' :: database, none⟩ := by
  have hhost : host.isEmpty = false := by simpa using h.host_ne
  simp [withAuthority, h.splitHost_eq, plainHost_of_inner h.host_inner, hhost,
    serviceOf_decimal h.service_le, h.splitQuery_eq, bind, Except.bind, pure, Except.pure]

theorem Plain.ofAuthority_eq (h : Plain user password host database service) :
    ofAuthority .other "mysql" (authorityChars user password host service database) =
      .ok ⟨"mysql", user, if password.isEmpty then none else some password, some host,
        some service, '/' :: database, none⟩ := by
  have hends : ∀ c ∈ (user ++ ':' :: password) ++ '@' :: (host ++ ':' :: decimal service),
      endsAuthority .other c = false := by
    intro c hc
    rcases h.mem_authority hc with hinner | rfl | rfl
    · simp [endsAuthority, ne_of_isInner hinner (by decide : isReserved '/' = true),
        ne_of_isInner hinner (by decide : isReserved '?' = true),
        ne_of_isInner hinner (by decide : isReserved '#' = true)]
    · decide
    · decide
  have hat : '@' ∉ host ++ ':' :: decimal service := by
    simp only [List.mem_append, List.mem_cons]
    rintro (hc | hc | hc)
    · exact ne_of_isInner (h.host_inner _ hc) (by decide) rfl
    · contradiction
    · exact ne_of_isInner (isInner_of_mem_decimal hc) (by decide) rfl
  have hcolon : ∀ c ∈ user, (c != ':') = true := fun c hc => by
    simpa using ne_of_isInner (h.user_inner c hc) (by decide : isReserved ':' = true)
  obtain ⟨hauthority, htail⟩ := takeWhile_authority hends database
  simp only [ofAuthority, authorityChars, hauthority, htail, splitCredentials?_append hat]
  rw [List.takeWhile_append_of_pos hcolon, List.dropWhile_append_of_pos hcolon]
  simp [h.withAuthority_eq]

theorem Plain.visible (h : Plain user password host database service) :
    ∀ c ∈ "mysql:".toList ++ '/' :: '/' :: authorityChars user password host service database,
      0x20 < c.toNat := by
  have hscheme : "mysql:".toList.all (fun d => decide (0x20 < d.toNat)) = true := by decide
  intro c hc
  rw [authorityChars, List.mem_append, List.mem_cons, List.mem_cons, List.mem_append,
    List.mem_cons] at hc
  rcases hc with hc | rfl | rfl | hc | rfl | hc
  · exact of_decide_eq_true (List.all_eq_true.mp hscheme c hc)
  · decide
  · decide
  · rcases h.mem_authority hc with hinner | rfl | rfl
    · exact hinner.2
    · decide
    · decide
  · decide
  · exact (h.database_inner c hc).2

theorem Plain.parse_eq (h : Plain user password host database service) :
    Url.parse (String.ofList ("mysql:".toList ++ '/' :: '/' ::
        authorityChars user password host service database)) =
      .ok ⟨"mysql", user, if password.isEmpty then none else some password, some host,
        some service, '/' :: database, none⟩ := by
  have hkind : kindOf "mysql" = .other := by decide
  simp only [Url.parse, String.toList_ofList, stripped_of_inner h.visible, splitScheme?_mysql,
    hkind]
  exact h.ofAuthority_eq

end Written

end Url

/-! ## Links -/

namespace Server.Options

open Url

def given? (s : String) : Option String :=
  if s = "" then none else some s

theorem escape_utf8_eq_nil_iff {s : String} : escape (utf8 s) = [] ↔ s = "" := by
  constructor
  · intro h
    have hread := ofUtf8_utf8 s
    rw [← unescape_escape (utf8 s), h] at hread
    exact (Except.ok.inj hread).symm
  · rintro rfl
    rfl

theorem textOf_escape (s : String) : textOf (escape (utf8 s)) = .ok (given? s) := by
  by_cases hs : s = ""
  · subst hs
    rfl
  · have hne : (escape (utf8 s)).isEmpty = false := by
      simpa [escape_utf8_eq_nil_iff] using hs
    rw [textOf, hne, unescape_escape, ofUtf8_utf8, given?, if_neg hs]
    rfl

theorem ofUrl_written (user password database : String) (host : List Char) (service : Nat) :
    ofUrl ⟨"mysql", escape (utf8 user),
        if (escape (utf8 password)).isEmpty then none else some (escape (utf8 password)),
        some host, some service, '/' :: escape (utf8 database), none⟩ =
      .ok { standard with
        host := String.ofList host
        service := service
        user := (given? user).getD standard.user
        password := given? password
        database := given? database } := by
  have hpassword : (if (escape (utf8 password)).isEmpty then none
      else some (escape (utf8 password))).getD [] = escape (utf8 password) := by
    split
    · rename_i hempty
      exact (List.isEmpty_iff.mp hempty).symm
    · rfl
  have hslash : ('/' :: escape (utf8 database)).dropWhile (· == '/') = escape (utf8 database) := by
    rw [List.dropWhile_cons_of_pos (by decide)]
    refine List.dropWhile_eq_self_iff.mpr fun hlength => ?_
    have hinner := inner_escape (utf8 database) _ (List.getElem_mem hlength)
    simpa using ne_of_isInner hinner.1 (by decide : isReserved '/' = true)
  have hsettings : settings ((none : Option (List Char)).getD []) = [] := rfl
  simp only [ofUrl, hpassword, hslash, hsettings, textOf_escape]
  rfl

def url (user password : String) (host : List Char) (service : Nat) (database : String) : String :=
  String.ofList ("mysql:".toList ++ '/' :: '/' ::
    authorityChars (escape (utf8 user)) (escape (utf8 password)) host service
      (escape (utf8 database)))

/-- A URL of a link describes it, whatever the user, the password and the database are. -/
theorem parse_url (user password database : String) {host : List Char} {service : Nat}
    (hne : host ≠ []) (hhost : ∀ c ∈ host, IsInner c) (hservice : service ≤ 65535) :
    parse (url user password host service database) =
      .ok { standard with
        host := String.ofList host
        service := service
        user := (given? user).getD standard.user
        password := given? password
        database := given? database } := by
  have hescape (s : String) : ∀ c ∈ escape (utf8 s), IsInner c :=
    fun c hc => (inner_escape (utf8 s) c hc).1
  have hplain : Plain (escape (utf8 user)) (escape (utf8 password)) host (escape (utf8 database))
      service :=
    ⟨hescape user, hescape password, hhost, hne, hescape database, hservice⟩
  unfold parse url
  rw [hplain.parse_eq]
  exact ofUrl_written user password database host service

end Server.Options

theorem Network.open?_url {τ : Type} (server : τ) (user password database : String)
    {host : List Char} {service : Nat} (hne : host ≠ []) (hhost : ∀ c ∈ host, Url.IsInner c)
    (hservice : service ≤ 65535) :
    (Network.serving server).open? (Server.Options.url user password host service database) =
      .ok ⟨server, 0⟩ := by
  rw [Network.open?, Server.Options.parse_url user password database hne hhost hservice]

end TableGateway

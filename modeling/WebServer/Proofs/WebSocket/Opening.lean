import WebServer.Proofs.Headers
import WebServer.WebSocket.Handshake

/-!
# WebServer.Proofs.WebSocket.Opening

Which requests open a session (`Opens`), and what is wrong with those that only ask for one
(`Refuses`). The check of a handshake says just that (`validate_of_opens`,
`validate_of_asks`), and no request is both.
-/

namespace WebServer

namespace WebSocket

namespace Handshake

variable {q : Request} {key : String} {e : Error}

/-! ## What a request says -/

/-- The first value of a field, without the white space around it. -/
def field (q : Request) (name : String) : Option String := (q.headers.getAll name).head?.map trimText

/-- A request asks for a session. -/
def Asks (q : Request) : Prop :=
  q.headers.Lists "Upgrade" "websocket" ∧ q.headers.Lists "Connection" "upgrade"

/-- A key is the Base64 form of sixteen bytes. -/
def IsNonce (key : String) : Prop := ∃ bs : Bytes, bs.length = 16 ∧ key.toList = Base64.encode bs

/-- A request opens a session with a key. -/
structure Opens (q : Request) (key : String) : Prop where
  isGet : q.method = .get
  asks : Asks q
  hasVersion : field q "Sec-WebSocket-Version" = some "13"
  hasKey : field q "Sec-WebSocket-Key" = some key
  isNonce : IsNonce key

/-- What is wrong first with a request for a session. -/
inductive Refuses (q : Request) : Error → Prop where
  | notGet : q.method ≠ .get → Refuses q .notGet
  | unsupportedVersion : q.method = .get → field q "Sec-WebSocket-Version" ≠ some "13" →
      Refuses q (.unsupportedVersion (field q "Sec-WebSocket-Version"))
  | missingKey : q.method = .get → field q "Sec-WebSocket-Version" = some "13" →
      field q "Sec-WebSocket-Key" = none → Refuses q .missingKey
  | invalidKey {key : String} : q.method = .get → field q "Sec-WebSocket-Version" = some "13" →
      field q "Sec-WebSocket-Key" = some key → ¬ IsNonce key → Refuses q .invalidKey

theorem Opens.key_eq {key' : String} (h : Opens q key) (h' : Opens q key') : key = key' :=
  Option.some.inj (h.hasKey.symm.trans h'.hasKey)

/-- A request that opens a session is not refused. -/
theorem Opens.not_refuses (h : Opens q key) : ¬ Refuses q e := by
  rintro (hm | ⟨_, hversion⟩ | ⟨_, _, hnone⟩ | ⟨_, _, hkey, hnonce⟩)
  · exact hm h.isGet
  · exact hversion h.hasVersion
  · exact Option.some_ne_none _ (h.hasKey.symm.trans hnone)
  · exact hnonce (Option.some.inj (h.hasKey.symm.trans hkey) ▸ h.isNonce)

/-- The version is what is wrong first. -/
theorem Refuses.version_iff (h : Refuses q e) :
    (∃ v, e = .unsupportedVersion v) ↔
      q.method = .get ∧ field q "Sec-WebSocket-Version" ≠ some "13" := by
  cases h with
  | notGet hm => exact iff_of_false (fun h => Error.noConfusion h.choose_spec) fun h => hm h.1
  | unsupportedVersion hm hversion => exact iff_of_true ⟨_, rfl⟩ ⟨hm, hversion⟩
  | missingKey _ hversion | invalidKey _ hversion =>
      exact iff_of_false (fun h => Error.noConfusion h.choose_spec) fun h => h.2 hversion

/-! ## What is checked -/

theorem isUpgrade_iff (q : Request) : isUpgrade q = true ↔ Asks q := by
  rw [isUpgrade, Bool.and_eq_true, Headers.hasToken_iff, Headers.hasToken_iff, Asks]

theorem isNonce_iff (key : String) : isNonce key = true ↔ IsNonce key := by
  unfold isNonce IsNonce
  cases hbytes : Base64.decode? key.toList with
  | none =>
      refine iff_of_false Bool.false_ne_true ?_
      rintro ⟨bs, _, hkey⟩
      rw [Base64.decode?_eq_some_iff.2 hkey] at hbytes
      contradiction
  | some bs =>
      have hkey := Base64.decode?_eq_some_iff.1 hbytes
      dsimp only
      rw [decide_eq_true_iff]
      refine ⟨fun hlength => ⟨bs, hlength, hkey⟩, ?_⟩
      rintro ⟨bs', hlength, hkey'⟩
      rw [Base64.decode?_eq_some_iff.2 hkey', Option.some.injEq] at hbytes
      rw [← hbytes]
      exact hlength

/-- The proof that a key was understood, for a key without white space around it. -/
def accept (key : String) : String :=
  String.ofList (Base64.encode (Sha1.digest (utf8 key ++ utf8 guid)))

/-- A key that was cut out of its field has nothing more to cut off. -/
theorem acceptKey_of_field {name : String} (h : field q name = some key) :
    acceptKey key = accept key := by
  obtain ⟨v, _, rfl⟩ := Option.map_eq_some_iff.1 h
  have htrim : trimText (trimText v) = trimText v := by
    simp only [trimText, String.toList_ofList, trim_trim]
  rw [acceptKey, accept, htrim]

/-- The check of a request that asks for a session. -/
theorem validate_of_asks (h : Asks q) :
    (∃ key, Opens q key ∧ validate q = .ok (accept key)) ∨
      ∃ e, Refuses q e ∧ validate q = .error e := by
  have hupgrade := (Headers.hasToken_iff _ _ _).2 h.1
  have hconnection := (Headers.hasToken_iff _ _ _).2 h.2
  have hfield : ∀ name, (q.headers.get? name).map trimText = field q name := by
    intro name
    rw [Headers.get?_eq_head?, field]
  unfold validate
  by_cases hm : q.method = .get
  · rw [if_neg (not_not.2 hm), hupgrade, hconnection, hfield, hfield]
    dsimp only
    by_cases hversion : field q "Sec-WebSocket-Version" = some "13"
    · cases hkey : field q "Sec-WebSocket-Key" with
      | none => exact .inr ⟨_, .missingKey hm hversion hkey, by simp [hversion, version]⟩
      | some key =>
          by_cases hnonce : IsNonce key
          · refine .inl ⟨key, ⟨hm, h, hversion, hkey, hnonce⟩, ?_⟩
            simp [hversion, version, (isNonce_iff key).2 hnonce, acceptKey_of_field hkey]
          · have hinvalid : ¬ isNonce key = true := fun hn => hnonce ((isNonce_iff key).1 hn)
            exact .inr ⟨_, .invalidKey hm hversion hkey hnonce, by simp [hversion, version, hinvalid]⟩
    · exact .inr ⟨_, .unsupportedVersion hm hversion, by simp [version, hversion]⟩
  · exact .inr ⟨_, .notGet hm, if_pos hm⟩

/-! ## What is answered -/

/-- The header fields of the response that switches protocols. -/
def switching (key : String) : Headers :=
  ⟨[("Upgrade", "websocket"), ("Connection", "Upgrade"), ("Sec-WebSocket-Accept", accept key)]⟩

/-- The field that tells which version is spoken, if that is what was wrong. -/
def Error.versionFields : Error → List (String × String)
  | .unsupportedVersion _ => [("Sec-WebSocket-Version", "13")]
  | _ => []

theorem Error.versionFields_eq_iff (e : Error) :
    e.versionFields = [("Sec-WebSocket-Version", "13")] ↔ ∃ v, e = .unsupportedVersion v := by
  cases e <;> simp [Error.versionFields]

end Handshake

end WebSocket

end WebServer

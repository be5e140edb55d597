import BucketAccess.Proofs.Authorization
import BucketAccess.Proofs.Http.Alike
import BucketAccess.Proofs.Operation.Failure

/-!
# Sessions under different secrets

Two sessions are opened under the same identifier with different keys, against
peers that answer alike but for the token that they grant.  Both logins fail in
the same way, or both give authorizations that differ in nothing but the token.
So the sessions go on alike, and what is made of them is the same, as long as it
does not depend on the token.
-/

namespace BucketAccess

open Http (Call Client HeardAlike Method Peer PeersAlike isAscii)

/-! ## Tokens -/

/-- The names under which a token may stand. -/
def tokenNames : List String := ["authorizationToken", "authorization_token"]

/-- Two answers to a login say the same but for the token, and both give
authorizations, with tokens that fit. -/
structure TokensDiffer (fits : Loose → Prop) (said said' : Json) : Prop where
  others : ∀ name ∉ tokenNames, said.field? name = said'.field? name
  granted : ∃ authorization, Authorization.kind.decode said = .ok authorization ∧
    fits authorization.token.value
  granted' : ∃ authorization, Authorization.kind.decode said' = .ok authorization ∧
    fits authorization.token.value

theorem TokensDiffer.eq_of_required {α : Type} {fits : Loose → Prop}
    {fields fields' : List (String × Json)} {name : Json.FieldName} {reading : Json.Reading α}
    {value value' : α} (hdiffer : TokensDiffer fits (.obj fields) (.obj fields'))
    (hnames : ∀ text ∈ name.wire :: name.plain.toList, text ∉ tokenNames)
    (hvalue : Json.required name reading fields = .sound value)
    (hvalue' : Json.required name reading fields' = .sound value') : value = value' := by
  rw [Json.required_congr fun text htext => hdiffer.others text (hnames text htext)] at hvalue
  exact Checked.sound.inj (hvalue.symm.trans hvalue')

namespace Authorization

/-- An authorization as far as it does not depend on the token. -/
def withoutToken (authorization : Authorization) : Authorization :=
  { authorization with token := ⟨""⟩ }

variable {authorization authorization' : Authorization}

theorem fields_of_decode {said : Json} (hdecode : kind.decode said = .ok authorization) :
    ∃ fields, said = .obj fields ∧ ofFields fields = .sound authorization := by
  have hreading := RecordKind.decode_eq_ok_iff.mp hdecode
  cases said with
  | obj fields => exact ⟨fields, rfl, hreading⟩
  | _ => exact nomatch hreading

/-- Answers that differ in the token only are read as authorizations that do. -/
theorem withoutToken_of_tokensDiffer {fits : Loose → Prop} {said said' : Json}
    (hdiffer : TokensDiffer fits said said') (hdecode : kind.decode said = .ok authorization)
    (hdecode' : kind.decode said' = .ok authorization') :
    authorization.withoutToken = authorization'.withoutToken := by
  obtain ⟨fields, rfl, hfields⟩ := fields_of_decode hdecode
  obtain ⟨fields', rfl, hfields'⟩ := fields_of_decode hdecode'
  obtain ⟨haccount, -, hallowed, hapi, hdownload, hrecommended, hminimum, hs3⟩ :=
    ofFields_eq_sound_iff.mp hfields
  obtain ⟨haccount', -, hallowed', hapi', hdownload', hrecommended', hminimum', hs3'⟩ :=
    ofFields_eq_sound_iff.mp hfields'
  simp only [withoutToken, hdiffer.eq_of_required (by decide) haccount haccount',
    hdiffer.eq_of_required (by decide) hallowed hallowed',
    hdiffer.eq_of_required (by decide) hapi hapi',
    hdiffer.eq_of_required (by decide) hdownload hdownload',
    hdiffer.eq_of_required (by decide) hrecommended hrecommended',
    hdiffer.eq_of_required (by decide) hminimum hminimum',
    hdiffer.eq_of_required (by decide) hs3 hs3']

/-- Two authorizations differ in nothing but the token, and if calls are to be
made under them, headers can carry both tokens or neither. -/
structure Alike (calling : Prop) (authorization authorization' : Authorization) : Prop where
  others : authorization.withoutToken = authorization'.withoutToken
  ascii : calling → isAscii authorization.header = isAscii authorization'.header

theorem Alike.refl (calling : Prop) (authorization : Authorization) :
    Alike calling authorization authorization :=
  ⟨rfl, fun _ => rfl⟩

/-- The same call under two such authorizations. -/
theorem Alike.post {calling : Prop} (halike : Alike calling authorization authorization')
    (hcalling : calling) (name : String) (body : Loose → Json) :
    (authorization.post name (body authorization.accountId)).Alike
      (authorization'.post name (body authorization'.accountId)) := by
  have hothers := Authorization.mk.inj halike.others
  refine ⟨rfl, ?_, ?_, rfl, fun _ => ⟨_, _, rfl, rfl, halike.ascii hcalling⟩⟩
  · exact congrArg (fun url => callUrl url name) hothers.2.2.2.1
  · exact congrArg body hothers.1

end Authorization

/-! ## What peers may say differently -/

/-- Tokens that fit what is to be done: any if no call is to be made, else those
that a header can carry. -/
def TokenFits (calling : Prop) (token : Loose) : Prop := calling → isAscii token.marked = true

/-- Peers may grant different tokens, and in all else they say the same. -/
def MayDiffer (calling : Prop) : Method → Json → Json → Prop
  | .get, said, said' => TokensDiffer (TokenFits calling) said said'
  | .post, _, _ => False

theorem Http.HeardAlike.eq_of_post {calling : Prop} {outcome outcome' : Except Fault Json}
    (halike : HeardAlike (MayDiffer calling .post) outcome outcome') : outcome = outcome' := by
  cases halike with
  | same => rfl
  | said hdiffer => exact hdiffer.elim

/-! ## Operations -/

section Sessions

variable {σ τ α β : Type} {calling : Prop} {related : σ → τ → Prop} {reply : Peer σ}
  {reply' : Peer τ} {peer : σ} {peer' : τ} {client : Client σ} {client' : Client τ}

/-- An operation reads what its call is told. -/
theorem Operation.run_eq (operation : Operation α) :
    operation.run reply client =
      ((client.send reply operation.call).1.bind operation.read,
        (client.send reply operation.call).2) := by
  unfold run runWith
  rcases client.send reply operation.call with ⟨fault | answer, next⟩
  · rfl
  · rfl

/-- A call that is made under two tokens comes to the same. -/
theorem Operation.run_alike {operation operation' : Operation α}
    (hpeers : PeersAlike (MayDiffer calling) related reply reply')
    (hclients : Client.Alike related client client')
    (hcalls : operation.call.Alike operation'.call) (hmethod : operation.call.method = .post)
    (hread : operation.read = operation'.read) :
    (operation.run reply client).1 = (operation'.run reply' client').1 ∧
      Client.Alike related (operation.run reply client).2 (operation'.run reply' client').2 := by
  obtain ⟨hheard, hnext⟩ := hclients.send hpeers hcalls
  rw [hmethod] at hheard
  rw [run_eq, run_eq, hheard.eq_of_post, hread]
  exact ⟨rfl, hnext⟩

/-! ## Logins -/

/-- Two logins fail in the same way, or are granted alike. -/
inductive LoginsAlike (calling : Prop) :
    Except Fault Authorization → Except Fault Authorization → Prop where
  | failed (fault : Fault) : LoginsAlike calling (.error fault) (.error fault)
  | granted {authorization authorization' : Authorization}
      (halike : authorization.Alike calling authorization') :
      LoginsAlike calling (.ok authorization) (.ok authorization')

theorem LoginsAlike.refl (outcome : Except Fault Authorization) :
    LoginsAlike calling outcome outcome := by
  cases outcome with
  | error fault => exact .failed fault
  | ok authorization => exact .granted (.refl calling authorization)

/-- What answers to a login are read as. -/
theorem loginsAlike_of_heard {outcome outcome' : Except Fault Json}
    (hheard : HeardAlike (MayDiffer calling .get) outcome outcome') :
    LoginsAlike calling (outcome.bind Authorization.kind.decode)
      (outcome'.bind Authorization.kind.decode) := by
  cases hheard with
  | same => exact .refl _
  | said hdiffer =>
      obtain ⟨authorization, hdecode, hfits⟩ := hdiffer.granted
      obtain ⟨authorization', hdecode', hfits'⟩ := hdiffer.granted'
      rw [Except.bind, Except.bind, hdecode, hdecode']
      apply LoginsAlike.granted
      refine ⟨Authorization.withoutToken_of_tokensDiffer hdiffer hdecode hdecode', ?_⟩
      intro hcalling
      exact (hfits hcalling).trans (hfits' hcalling).symm

namespace Login

/-- Two logins at the same place under the same identifier, with any keys that are
both whole or both broken. -/
structure Alike (login login' : Login) : Prop where
  keyId : login.keyId = login'.keyId
  key : login.key.value.isWhole = login'.key.value.isWhole
  authUrl : login.authUrl = login'.authUrl

variable {login login' : Login}

/-- Headers can carry both logins, or neither can be written as one. -/
theorem Alike.loginHeaders (hlogins : login.Alike login') :
    (∃ header header', loginHeader login.keyId login.key.value = .ok header ∧
        loginHeader login'.keyId login'.key.value = .ok header' ∧
        isAscii header = isAscii header') ∨
      (loginHeader login.keyId login.key.value = .error .brokenText ∧
        loginHeader login'.keyId login'.key.value = .error .brokenText) := by
  have hwhole := hlogins.key
  rw [← hlogins.keyId]
  cases login.keyId with
  | broken front first rest => exact .inr ⟨rfl, rfl⟩
  | whole keyId =>
      cases hkey : login.key.value <;> cases hkey' : login'.key.value <;> rw [hkey, hkey'] at hwhole
      case whole.whole =>
        exact .inl ⟨_, _, rfl, rfl, (isAscii_basicHeader _ _).trans (isAscii_basicHeader _ _).symm⟩
      case broken.broken => exact .inr ⟨rfl, rfl⟩
      all_goals cases hwhole

/-- The calls of two such logins differ in nothing but their rights. -/
theorem Alike.call (hlogins : login.Alike login') :
    login.operation.call.Alike login'.operation.call := by
  rw [Login.operation, Login.operation, hlogins.authUrl]
  rcases hlogins.loginHeaders with
    ⟨header, header', hheader, hheader', hascii⟩ | ⟨hheader, hheader'⟩
  · rw [hheader, hheader']
    exact ⟨rfl, rfl, rfl, rfl, fun _ => ⟨header, header', rfl, rfl, hascii⟩⟩
  · rw [hheader, hheader']
    refine ⟨rfl, rfl, rfl, rfl, fun hmade => ?_⟩
    cases hmade

theorem Alike.run_operation (hlogins : login.Alike login')
    (hpeers : PeersAlike (MayDiffer calling) related reply reply')
    (hclients : Client.Alike related client client') :
    LoginsAlike calling (login.operation.run reply client).1
        (login'.operation.run reply' client').1 ∧
      Client.Alike related (login.operation.run reply client).2
        (login'.operation.run reply' client').2 := by
  obtain ⟨hheard, hnext⟩ := hclients.send hpeers hlogins.call
  rw [show login.operation.call.method = .get from Call.method_withMade] at hheard
  rw [Operation.run_eq, Operation.run_eq]
  exact ⟨loginsAlike_of_heard hheard, hnext⟩

/-- Sessions with different keys are opened alike. -/
theorem Alike.openSession (hlogins : login.Alike login')
    (hpeers : PeersAlike (MayDiffer calling) related reply reply') (hpeer : related peer peer') :
    LoginsAlike calling (login.openSession reply peer).1 (login'.openSession reply' peer').1 ∧
      Client.Alike related (login.openSession reply peer).2
        (login'.openSession reply' peer').2 := by
  obtain ⟨houtcomes, hclients⟩ := hlogins.run_operation hpeers (Client.Alike.connect hpeer)
  unfold Login.openSession
  rcases hrun : login.operation.run reply (Client.connect peer) with ⟨outcome, client⟩
  rcases hrun' : login'.operation.run reply' (Client.connect peer') with ⟨outcome', client'⟩
  rw [hrun, hrun'] at houtcomes hclients
  dsimp only at houtcomes
  cases houtcomes with
  | failed fault => exact ⟨.failed fault, hclients.close⟩
  | granted halike => exact ⟨.granted halike, hclients⟩

/-- Work that comes to the same in sessions that are alike, and leaves the
clients alike, comes to the same with the login in front and the closing
behind. -/
theorem Alike.visit {work : Authorization → Client σ → Except Fault α × Client σ}
    {work' : Authorization → Client τ → Except Fault α × Client τ} {shown : α → β}
    (hlogins : login.Alike login')
    (hpeers : PeersAlike (MayDiffer calling) related reply reply') (hpeer : related peer peer')
    (hwork : ∀ authorization authorization' client client',
      authorization.Alike calling authorization' → Client.Alike related client client' →
      (work authorization client).1.map shown = (work' authorization' client').1.map shown ∧
        Client.Alike related (work authorization client).2 (work' authorization' client').2) :
    (login.visit reply work peer).1.map shown = (login'.visit reply' work' peer').1.map shown ∧
      Client.Alike related (login.visit reply work peer).2
        (login'.visit reply' work' peer').2 := by
  obtain ⟨houtcomes, hclients⟩ := hlogins.openSession hpeers hpeer
  unfold Login.visit
  rcases hopen : login.openSession reply peer with ⟨outcome, client⟩
  rcases hopen' : login'.openSession reply' peer' with ⟨outcome', client'⟩
  rw [hopen, hopen'] at houtcomes hclients
  dsimp only at houtcomes
  cases houtcomes with
  | failed fault => exact ⟨rfl, hclients⟩
  | granted halike =>
      obtain ⟨hsame, hnext⟩ := hwork _ _ _ _ halike hclients
      exact ⟨hsame, hnext.close⟩

/-- An operation that makes its call under the token, and reads the answer
without it, comes to the same. -/
theorem Alike.perform {operation : Authorization → Operation α} {shown : α → β}
    (hlogins : login.Alike login') (hcalling : calling)
    (hpeers : PeersAlike (MayDiffer calling) related reply reply') (hpeer : related peer peer')
    (name : String) (body : Loose → Json)
    (hcall : ∀ authorization, (operation authorization).call =
      authorization.post name (body authorization.accountId))
    (hread : ∀ authorization authorization',
      (operation authorization).read = (operation authorization').read) :
    (login.perform reply operation peer).1.map shown =
        (login'.perform reply' operation peer').1.map shown ∧
      Client.Alike related (login.perform reply operation peer).2
        (login'.perform reply' operation peer').2 := by
  apply hlogins.visit hpeers hpeer
  intro authorization authorization' client client' halike hclients
  have hcalls := halike.post hcalling name body
  rw [← hcall, ← hcall] at hcalls
  have hmethod : (operation authorization).call.method = .post := by
    rw [hcall]
    rfl
  apply And.imp_left (congrArg (Except.map shown))
  exact Operation.run_alike hpeers hclients hcalls hmethod (hread _ _)

end Login

end Sessions

end BucketAccess

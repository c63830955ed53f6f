import MsggwManager.Clients.Lookup

/-!
# Client operations

`list_clients()` and `show_client_details(identifier)` print what the gateway holds; like the
carrier table, their printing raises on values of unexpected types (`renderClient`,
`renderClientDetails`). `create_client_interactive()` asks for a username (stopping on a blank one),
a password (generated when blank), a name, a type and an address (stopping when a legacy client has
none) and a limit, posts the record, and returns `str` of the id the gateway answers with.
`update_client_settings(identifier)` asks four questions and puts the fields that were answered
(`settingsOf`), sending nothing when none was. `change_client_password(identifier)` patches a typed
or generated password after a `y`.

Each operation keeps every script frame: a created client has a username, a password and a type,
and an address when it is a legacy client; a settings update is not empty and its fields come in
the order of `settingsKeys`; a new password is not empty.
-/

namespace MsggwManager

/-! ## Printing -/

/-- A row of the client table. -/
def renderClient (c : JVal) : Except Exc Unit := do
  let _ ← c.get "id" (.str "")
  let username ← (← c.get "username" (.str "")).slice 18
  let name ← ((← c.get "name" .null).or (.str "")).slice 22
  let ctype ← (← c.get "type" (.str "legacy")).slice 8
  let limit ← c.get "sms_limit" (.num 0)
  let _ ← limit.gtZero
  let _ ← (← c.get "numbers" (.arr [])).len
  username.formatAligned
  name.formatAligned
  ctype.formatAligned

/-- The table of `list_clients`. -/
def renderClients (clients : JVal) : Except Exc Unit := do
  (← clients.iter).forM renderClient

/-- A number of `show_client_details`: its fields, and its limit compared with 0. -/
def renderNumberDetail (n : JVal) : Except Exc Unit := do
  let _ ← n.get "number" (.str "")
  let _ ← n.get "carrier" (.str "")
  let _ ← n.get "tag" (.str "")
  let limit ← n.get "sms_limit" (.num 0)
  let _ ← limit.gtZero

/-- What `show_client_details` prints of a client. The six fields of the client and the four of
its `web_settings` are printed with `str`; of their `.get`s only the first of each dict can
raise. -/
def renderClientDetails (client : JVal) : Except Exc Unit := do
  let _ ← client.get "id" .null
  let ws ← client.get "web_settings" .null
  if ws.truthy then
    let _ ← ws.get "api_format" (.str "generic")
  let numbers ← client.get "numbers" (.arr [])
  if numbers.truthy then
    let _ ← numbers.len
    (← numbers.iter).forM renderNumberDetail

/-! ## The settings an update sends -/

/-- `formats`. -/
def apiFormats : List (String × String) := [("1", "generic"), ("2", "bicom"), ("3", "telnyx")]

/-- An integer field read from a non-blank answer, left out where `int` raises. -/
def intField (key answer : String) : List (String × JVal) :=
  if answer.isEmpty then [] else ((Py.int answer).map fun n => [(key, JVal.num n)]).getD []

/-- `settings` as `update_client_settings` builds it from its four answers. -/
def settingsOf (formatChoice webhook retries timeout : String) : List (String × JVal) :=
  ((apiFormats.lookup formatChoice).map fun f => [("api_format", JVal.str f)]).getD [] ++
  (if webhook.isEmpty then [] else [("default_webhook", .str webhook)]) ++
  intField "webhook_retries" retries ++ intField "webhook_timeout_secs" timeout

theorem intField_keys (key answer : String) :
    ((intField key answer).map Prod.fst).Sublist [key] := by
  unfold intField
  split
  · exact List.nil_sublist _
  · cases Py.int answer <;> simp

theorem intField_lookup (key answer : String) :
    (intField key answer).lookup key = (Py.int answer).map .num := by
  unfold intField
  split
  · rename_i h
    rw [(String.isEmpty_iff _).mp h]
    rfl
  · cases Py.int answer <;> simp

theorem lookup_eq_none_of_keys {l : List (String × JVal)} {key k : String}
    (hl : (l.map Prod.fst).Sublist [key]) (hk : k ≠ key) : l.lookup k = none := by
  rw [List.lookup_eq_none_iff]
  intro p hp
  have hkey := List.mem_singleton.mp (hl.subset (List.mem_map_of_mem Prod.fst hp))
  simpa [hkey] using hk

theorem settingsOf_keys (formatChoice webhook retries timeout : String) :
    ((settingsOf formatChoice webhook retries timeout).map Prod.fst).Sublist settingsKeys := by
  have hformat : ((((apiFormats.lookup formatChoice).map fun f => [("api_format", JVal.str f)]).getD
      []).map Prod.fst).Sublist ["api_format"] := by
    cases apiFormats.lookup formatChoice <;> simp
  have hwebhook : ((if webhook.isEmpty then [] else [("default_webhook", JVal.str webhook)]).map
      Prod.fst).Sublist ["default_webhook"] := by
    split <;> simp
  simp only [settingsOf, List.map_append]
  exact ((hformat.append hwebhook).append (intField_keys _ _)).append (intField_keys _ _)

theorem settingsOf_lookup (formatChoice webhook retries timeout : String) :
    (settingsOf formatChoice webhook retries timeout).lookup "api_format" =
        (apiFormats.lookup formatChoice).map .str ∧
      (settingsOf formatChoice webhook retries timeout).lookup "default_webhook" =
        (if webhook.isEmpty then none else some (.str webhook)) ∧
      (settingsOf formatChoice webhook retries timeout).lookup "webhook_retries" =
        (Py.int retries).map .num ∧
      (settingsOf formatChoice webhook retries timeout).lookup "webhook_timeout_secs" =
        (Py.int timeout).map .num := by
  have hother : ∀ {key k : String} (answer : String), k ≠ key →
      (intField key answer).lookup k = none :=
    fun answer hk => lookup_eq_none_of_keys (intField_keys _ answer) hk
  simp (disch := decide) only [settingsOf, List.lookup_append, intField_lookup, hother]
  cases apiFormats.lookup formatChoice <;> by_cases hw : webhook.isEmpty <;> simp [hw, List.lookup_cons]

variable {σ : Type}

/-! ## The operations -/

/-- `list_clients()`: the clients, `[]` when there are none, `none` on a network fault or a
status other than 200. -/
def listClients (gw : Gateway σ) : Cli σ (Option JVal) := do
  match ← getJson gw "/clients" with
  | .networkError _ => return none
  | .response resp =>
    if resp.status != 200 then return none
    else
      let clients ← liftExcept resp.decode
      if !clients.truthy then return some (.arr [])
      else
        liftExcept (renderClients clients)
        return some clients

/-- `show_client_details(identifier)`. -/
def showClientDetails (gw : Gateway σ) (identifier : String) : Cli σ Unit := do
  match ← getClientByIdentifier gw identifier with
  | none => return ()
  | some client =>
    if !client.truthy then return ()
    else liftExcept (renderClientDetails client)

/-- A typed password, or `generate_password()` when it is blank. -/
def passwordOrGenerated (typed : String) : Cli σ String :=
  if typed.isEmpty then generatePassword 24 else pure typed

/-- `create_client_interactive()`: `str` of the new client's id, `none` when it was not created.
Both types read the address; only a legacy client needs one. -/
def createClientInteractive (gw : Gateway σ) : Cli σ (Option String) := do
  let username := Py.strip (← input)
  if username.isEmpty then return none
  else
    let password ← passwordOrGenerated (Py.strip (← input))
    let name := Py.strip (← input)
    let typeChoice := Py.strip (← input)
    let clientType := if typeChoice = "2" then "web" else "legacy"
    let address := Py.strip (← input)
    if clientType = "legacy" ∧ address.isEmpty then return none
    else
      let smsLimit := Py.intOr (Py.strip (← input)) 0
      match ← postJson gw "/clients"
          (clientPayload username password name clientType address smsLimit) with
      | .networkError _ => return none
      | .response resp =>
        if is2xx resp.status then
          let data ← liftExcept resp.decode
          let clientId ← liftExcept (data.get "id" (.str "?"))
          return some clientId.toStr
        else return none

/-- `update_client_settings(identifier)`. -/
def updateClientSettings (gw : Gateway σ) (identifier : String) : Cli σ Unit := do
  match ← getClientByIdentifier gw identifier with
  | none => return ()
  | some client =>
    if !client.truthy then return ()
    else
      let clientId ← liftExcept (client.get "id" .null)
      let formatChoice := Py.strip (← input)
      let webhook := Py.strip (← input)
      let retries := Py.strip (← input)
      let timeout := Py.strip (← input)
      let settings := settingsOf formatChoice webhook retries timeout
      if settings.isEmpty then return ()
      else
        let _ ← putJson gw (settingsPath clientId) settings
        return ()

/-- `change_client_password(identifier)`. -/
def changeClientPassword (gw : Gateway σ) (identifier : String) : Cli σ Unit := do
  match ← getClientByIdentifier gw identifier with
  | none => return ()
  | some client =>
    if !client.truthy then return ()
    else
      let clientId ← liftExcept (client.get "id" .null)
      let newPassword ← passwordOrGenerated (Py.strip (← input))
      let confirm := Py.lower (Py.strip (← input))
      if confirm != "y" then return ()
      else
        let _ ← patchJson gw (passwordPath clientId) (passwordPayload newPassword)
        return ()

/-! ## What the operations send -/

theorem passwordOrGenerated_ne {typed pwd : String} {w w' : World σ}
    (h : passwordOrGenerated typed w = .ok pwd w') : pwd ≠ "" := by
  unfold passwordOrGenerated at h
  split at h
  · have hlen := (generatePassword_spec h).1
    rintro rfl
    cases hlen
  · rename_i hblank
    cases h
    rintro rfl
    exact hblank rfl

theorem passwordOrGenerated_world (typed : String) (w : World σ) :
    (Cli.world (passwordOrGenerated typed w)).keys = w.keys ∧
      (Cli.world (passwordOrGenerated typed w)).log = w.log := by
  unfold passwordOrGenerated
  split
  · rw [generatePassword_world]; exact ⟨rfl, rfl⟩
  · exact ⟨rfl, rfl⟩

section Frame

variable {gw : Gateway σ} (F : ScriptFrame gw)

theorem passwordOrGenerated_keeps (typed : String) :
    Cli.Keeps F.toProgress (passwordOrGenerated typed) :=
  Cli.keeps_ite (fun _ => F.keepsGenerate) fun _ => Cli.keeps_pure _

theorem listClients_keeps : Cli.Keeps F.toProgress (listClients gw) := by
  refine Cli.keeps_bind (F.keepsSend _ _ _ .listClients) fun o => ?_
  cases o with
  | networkError => exact Cli.keeps_pure _
  | response resp =>
    exact Cli.keeps_ite (fun _ => Cli.keeps_pure _) fun _ =>
      Cli.keeps_bind (Cli.keeps_liftExcept _) fun _ =>
        Cli.keeps_ite (fun _ => Cli.keeps_pure _) fun _ =>
          Cli.keeps_bind (Cli.keeps_liftExcept _) fun _ => Cli.keeps_pure _

theorem showClientDetails_keeps (identifier : String) :
    Cli.Keeps F.toProgress (showClientDetails gw identifier) := by
  refine Cli.keeps_bind (getClientByIdentifier_keeps F identifier) fun client => ?_
  cases client with
  | none => exact Cli.keeps_pure _
  | some client => exact Cli.keeps_ite (fun _ => Cli.keeps_pure _) fun _ => Cli.keeps_liftExcept _

theorem createClientInteractive_keeps : Cli.Keeps F.toProgress (createClientInteractive gw) := by
  refine Cli.keeps_bind F.keepsInput fun username => ?_
  refine Cli.keeps_ite (fun _ => Cli.keeps_pure _) fun husername => ?_
  refine Cli.keeps_bind F.keepsInput fun typed => ?_
  refine Cli.keeps_bind_post (passwordOrGenerated_keeps F _)
    (fun _ _ _ h => passwordOrGenerated_ne h) fun password hpassword => ?_
  refine Cli.keeps_bind F.keepsInput fun _ => Cli.keeps_bind F.keepsInput fun choice =>
    Cli.keeps_bind F.keepsInput fun address => ?_
  refine Cli.keeps_ite (fun _ => Cli.keeps_pure _) fun haddress => ?_
  refine Cli.keeps_bind F.keepsInput fun _ => Cli.keeps_bind (F.keepsSend _ _ _ ?_) fun o => ?_
  · refine .createClient (fun h => husername ?_) hpassword ?_
      fun hlegacy hblank => haddress ⟨hlegacy, ?_⟩
    · rw [h]; rfl
    · split <;> simp
    · rw [hblank]; rfl
  · cases o with
    | networkError => exact Cli.keeps_pure _
    | response resp =>
      exact Cli.keeps_ite (fun _ => Cli.keeps_bind (Cli.keeps_liftExcept _) fun _ =>
        Cli.keeps_bind (Cli.keeps_liftExcept _) fun _ => Cli.keeps_pure _) fun _ => Cli.keeps_pure _

theorem updateClientSettings_keeps (identifier : String) :
    Cli.Keeps F.toProgress (updateClientSettings gw identifier) := by
  refine Cli.keeps_bind (getClientByIdentifier_keeps F identifier) fun client => ?_
  cases client with
  | none => exact Cli.keeps_pure _
  | some client =>
    refine Cli.keeps_ite (fun _ => Cli.keeps_pure _) fun _ =>
      Cli.keeps_bind (Cli.keeps_liftExcept _) fun clientId => Cli.keeps_bind F.keepsInput fun _ =>
        Cli.keeps_bind F.keepsInput fun _ => Cli.keeps_bind F.keepsInput fun _ =>
          Cli.keeps_bind F.keepsInput fun _ => ?_
    refine Cli.keeps_ite (fun _ => Cli.keeps_pure _) fun hne =>
      Cli.keeps_bind (F.keepsSend _ _ _ (.updateSettings ?_ (settingsOf_keys _ _ _ _))) fun _ =>
        Cli.keeps_pure _
    rintro h
    exact hne (by rw [h]; rfl)

theorem changeClientPassword_keeps (identifier : String) :
    Cli.Keeps F.toProgress (changeClientPassword gw identifier) := by
  refine Cli.keeps_bind (getClientByIdentifier_keeps F identifier) fun client => ?_
  cases client with
  | none => exact Cli.keeps_pure _
  | some client =>
    refine Cli.keeps_ite (fun _ => Cli.keeps_pure _) fun _ =>
      Cli.keeps_bind (Cli.keeps_liftExcept _) fun clientId => Cli.keeps_bind F.keepsInput fun _ =>
        Cli.keeps_bind_post (passwordOrGenerated_keeps F _)
          (fun _ _ _ h => passwordOrGenerated_ne h) fun password hpassword =>
            Cli.keeps_bind F.keepsInput fun _ => Cli.keeps_ite (fun _ => Cli.keeps_pure _) fun _ =>
              Cli.keeps_bind (F.keepsSend _ _ _ (.changePassword hpassword)) fun _ =>
                Cli.keeps_pure _

end Frame

end MsggwManager

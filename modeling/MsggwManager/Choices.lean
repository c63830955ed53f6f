import MsggwManager.Triple

/-!
# What each choice of the menu sends

Each choice of `menu()` sends only the kinds of request its operation is written to send
(`choiceCalls`): `1` lists the carriers and `2` creates one; `3`, `4` and `8` list the clients;
`5` creates a client; `6` and `7` list the clients, then put a client's settings or patch its
password; `9` lists the clients and the carriers and posts numbers; `r` reloads the clients and the
carriers; the quick flow `q` creates a client, lists the carriers and the clients, posts numbers
and reloads; `0` and every choice the menu does not offer send nothing
(`menuAction_sends_choiceCalls`). So `1`, `3`, `4` and `8` only read: against a gateway whose
`GET`s leave its state as they find it, they leave the gateway as they found it
(`menuAction_readOnly`).

Proof. `Cli.SendsWithin gw ok x` says that `x` keeps every assertion over the gateway's state and
the request log that each request `ok` allows keeps, however `x` ends. Prompts and generated
passwords have it for every `ok`, a request has it where `ok` allows the request, the combinators
keep it, and widening `ok` keeps it (`Cli.SendsWithin.mono`). Each operation is proved once, with
the kinds of its own requests, and each choice from the operations it runs. The two results are
the assertions "every request since `L₀` is of the choice's kinds" and "the state is `s₀`".
-/

namespace MsggwManager

/-! ## The kinds of request -/

/-- The nine kinds of request the script sends, one for each endpoint of the API it calls. -/
inductive Call
  | listCarriers | createCarrier | reloadCarriers
  | listClients | createClient | reloadClients
  | updateSettings | changePassword | addNumber
  deriving DecidableEq, Repr

/-- The method of a request of each kind. -/
def Call.method : Call → Method
  | .listCarriers | .listClients => .get
  | .createCarrier | .reloadCarriers | .createClient | .reloadClients | .addNumber => .post
  | .updateSettings => .put
  | .changePassword => .patch

/-- The path of a request of each kind, or its shape where it names a client. -/
def Call.HasPath : Call → String → Prop
  | .listCarriers, p | .createCarrier, p => p = "/carriers"
  | .reloadCarriers, p => p = "/carriers/reload"
  | .listClients, p | .createClient, p => p = "/clients"
  | .reloadClients, p => p = "/clients/reload"
  | .updateSettings, p => ∃ x, p = settingsPath x
  | .changePassword, p => ∃ x, p = passwordPath x
  | .addNumber, p => ∃ x, p = numbersPath x

/-- A request of one of the kinds `ks`. -/
def Allows (ks : List Call) (req : Request) : Prop :=
  ∃ k ∈ ks, req.method = k.method ∧ k.HasPath req.path

/-- The kinds of request each choice of the menu is written to send. -/
def choiceCalls : String → List Call
  | "1" => [.listCarriers]
  | "2" => [.createCarrier]
  | "3" | "4" | "8" => [.listClients]
  | "5" => [.createClient]
  | "6" => [.listClients, .updateSettings]
  | "7" => [.listClients, .changePassword]
  | "9" => [.listClients, .listCarriers, .addNumber]
  | "r" => [.reloadClients, .reloadCarriers]
  | "q" => [.createClient, .listCarriers, .listClients, .addNumber, .reloadClients,
      .reloadCarriers]
  | _ => []

theorem Call.allows (k : Call) {ks : List Call} (hk : k ∈ ks) {method : Method} {path : String}
    (hm : method = k.method) (hp : k.HasPath path) :
    ∀ req : Request, req.method = method → req.path = path → Allows ks req :=
  fun _ hm' hp' => ⟨k, hk, hm'.trans hm, hp' ▸ hp⟩

theorem Allows.mono {ks ks' : List Call} (h : ks ⊆ ks') {req : Request} (hreq : Allows ks req) :
    Allows ks' req :=
  let ⟨k, hk, hreq⟩ := hreq
  ⟨k, h hk, hreq⟩

/-! ## Staying within the allowed requests -/

section Within

variable {σ : Type} (gw : Gateway σ)

/-- A request that `ok` allows keeps `I`, whatever the gateway answers. -/
def KeptBy (ok : Request → Prop) (I : σ → RequestLog → Prop) : Prop :=
  ∀ s log req, ok req → I s log → I (gw.respond s req).2 (log ++ [(req, (gw.respond s req).1)])

/-- `x` sends only requests that `ok` allows: it keeps every assertion that such a request keeps,
however it ends. -/
def Cli.SendsWithin (ok : Request → Prop) {α : Type} (x : Cli σ α) : Prop :=
  ∀ (I : σ → RequestLog → Prop) (E : Exc → σ → RequestLog → Prop), KeptBy gw ok I →
    (∀ e s log, I s log → E e s log) → Cli.WTriple I (fun _ => I) E x

variable {gw} {ok : Request → Prop} {α β : Type}

theorem KeptBy.sent {I : σ → RequestLog → Prop} (hI : KeptBy gw ok I) {o : Outcome} {s : σ}
    {log : RequestLog} {method : Method} {path : String}
    {payload : Option (List (String × JVal))}
    (hok : ∀ req : Request, req.method = method → req.path = path → ok req)
    (h : ∃ s₀ log₀ req, I s₀ log₀ ∧ gw.respond s₀ req = (o, s) ∧ log = log₀ ++ [(req, o)] ∧
      req.method = method ∧ req.path = path ∧ req.payload = payload) : I s log := by
  obtain ⟨s₀, log₀, req, h, hresp, rfl, hm, hp, -⟩ := h
  have := hI s₀ log₀ req (hok req hm hp) h
  rwa [hresp] at this

theorem KeptBy.mono {ok' : Request → Prop} {I : σ → RequestLog → Prop} (hI : KeptBy gw ok' I)
    (h : ∀ req, ok req → ok' req) : KeptBy gw ok I :=
  fun s log req hreq => hI s log req (h req hreq)

theorem Cli.SendsWithin.mono {ok' : Request → Prop} {x : Cli σ α} (hx : Cli.SendsWithin gw ok x)
    (h : ∀ req, ok req → ok' req) : Cli.SendsWithin gw ok' x :=
  fun I E hI hE => hx I E (hI.mono h) hE

theorem Cli.SendsWithin.widen {ks ks' : List Call} {x : Cli σ α}
    (hx : Cli.SendsWithin gw (Allows ks) x) (h : ks ⊆ ks') : Cli.SendsWithin gw (Allows ks') x :=
  hx.mono fun _ => Allows.mono h

theorem Cli.SendsWithin.bind {x : Cli σ α} {f : α → Cli σ β} (hx : Cli.SendsWithin gw ok x)
    (hf : ∀ a, Cli.SendsWithin gw ok (f a)) : Cli.SendsWithin gw ok (x >>= f) :=
  fun I E hI hE => Cli.wtriple_bind (hx I E hI hE) fun a => hf a I E hI hE

theorem Cli.sendsWithin_pure (a : α) : Cli.SendsWithin gw ok (pure a : Cli σ α) :=
  fun _ _ _ _ => Cli.wtriple_pure fun _ _ h => h

theorem Cli.sendsWithin_ite {c : Prop} [Decidable c] {x y : Cli σ α}
    (hx : c → Cli.SendsWithin gw ok x) (hy : ¬c → Cli.SendsWithin gw ok y) :
    Cli.SendsWithin gw ok (if c then x else y) :=
  fun I E hI hE => Cli.wtriple_ite (fun h => hx h I E hI hE) fun h => hy h I E hI hE

theorem Cli.sendsWithin_liftExcept (x : Except Exc α) :
    Cli.SendsWithin gw ok (liftExcept x : Cli σ α) :=
  fun _ _ _ hE => Cli.wtriple_liftExcept fun e s log _ h => hE e s log h

theorem Cli.sendsWithin_foldlM {f : β → α → Cli σ β} {l : List α}
    (hf : ∀ b a, Cli.SendsWithin gw ok (f b a)) (b : β) : Cli.SendsWithin gw ok (l.foldlM f b) :=
  fun I E hI hE => Cli.wtriple_foldlM (fun b a _ => hf b a I E hI hE) b

theorem input_sendsWithin : Cli.SendsWithin gw ok (input : Cli σ String) :=
  fun _ _ _ hE => input_wtriple fun e s log _ h => hE e s log h

theorem passwordOrGenerated_sendsWithin (typed : String) :
    Cli.SendsWithin gw ok (passwordOrGenerated typed : Cli σ String) :=
  fun _ _ _ hE => passwordOrGenerated_wtriple (fun e s log _ h => hE e s log h) typed

theorem identifierOr_sendsWithin (last : Option String) :
    Cli.SendsWithin gw ok (identifierOr last : Cli σ _) :=
  fun _ _ _ hE => identifierOr_wtriple (fun e s log _ h => hE e s log h) last

theorem carrierOrDefault_sendsWithin : Cli.SendsWithin gw ok (carrierOrDefault : Cli σ String) :=
  fun _ _ _ hE => carrierOrDefault_wtriple fun e s log _ h => hE e s log h

theorem readAllLines_sendsWithin : Cli.SendsWithin gw ok (readAllLines : Cli σ _) :=
  fun _ _ _ hE => readAllLines_wtriple fun e s log _ h => hE e s log h

theorem withIdentifier_sendsWithin (last : Option String) {op : String → Cli σ Unit}
    (hop : ∀ s, Cli.SendsWithin gw ok (op s)) : Cli.SendsWithin gw ok (withIdentifier last op) :=
  fun I E hI hE => withIdentifier_wtriple (fun e s log _ h => hE e s log h) last
    fun s => hop s I E hI hE

variable (gw)

theorem send_sendsWithin {method : Method} {path : String}
    {payload : Option (List (String × JVal))}
    (hok : ∀ req : Request, req.method = method → req.path = path → ok req) :
    Cli.SendsWithin gw ok (send gw method path payload) := fun _ _ hI hE =>
  (send_wtriple (fun e s log _ h => hE e s log h) gw method path payload).post
    fun _ _ _ h => hI.sent hok h

end Within

/-! ## The operations -/

section Operations

variable {σ : Type} (gw : Gateway σ)

theorem listCarriers_within : Cli.SendsWithin gw (Allows [.listCarriers]) (listCarriers gw) :=
  (send_sendsWithin gw (Call.allows .listCarriers (by decide) rfl rfl)).bind fun o => by
    cases o with
    | networkError => exact Cli.sendsWithin_pure _
    | response r =>
      exact Cli.sendsWithin_ite (fun _ => Cli.sendsWithin_pure _) fun _ =>
        (Cli.sendsWithin_liftExcept _).bind fun _ =>
          Cli.sendsWithin_ite (fun _ => Cli.sendsWithin_pure _) fun _ =>
            (Cli.sendsWithin_liftExcept _).bind fun _ => Cli.sendsWithin_pure _

theorem createCarrierInteractive_within :
    Cli.SendsWithin gw (Allows [.createCarrier]) (createCarrierInteractive gw) :=
  input_sendsWithin.bind fun _ => Cli.sendsWithin_ite (fun _ => Cli.sendsWithin_pure _) fun _ =>
    input_sendsWithin.bind fun _ => input_sendsWithin.bind fun _ => input_sendsWithin.bind fun _ =>
      input_sendsWithin.bind fun _ => input_sendsWithin.bind fun _ =>
        (send_sendsWithin gw (Call.allows .createCarrier (by decide) rfl rfl)).bind fun o => by
          cases o <;> exact Cli.sendsWithin_pure _

theorem listClients_within : Cli.SendsWithin gw (Allows [.listClients]) (listClients gw) :=
  (send_sendsWithin gw (Call.allows .listClients (by decide) rfl rfl)).bind fun o => by
    cases o with
    | networkError => exact Cli.sendsWithin_pure _
    | response r =>
      exact Cli.sendsWithin_ite (fun _ => Cli.sendsWithin_pure _) fun _ =>
        (Cli.sendsWithin_liftExcept _).bind fun _ =>
          Cli.sendsWithin_ite (fun _ => Cli.sendsWithin_pure _) fun _ =>
            (Cli.sendsWithin_liftExcept _).bind fun _ => Cli.sendsWithin_pure _

theorem reloadAll_within :
    Cli.SendsWithin gw (Allows [.reloadClients, .reloadCarriers]) (reloadAll gw) :=
  (send_sendsWithin gw (Call.allows .reloadClients (by decide) rfl rfl)).bind fun _ =>
    (send_sendsWithin gw (Call.allows .reloadCarriers (by decide) rfl rfl)).bind fun _ =>
      Cli.sendsWithin_pure _

/-- After a client creation that returned `u`: `I` holds, and a returned identifier is `str` of the
`id` of the body of a 2xx answer to the `POST /clients` that ends the log. -/
def CreatedWith (I : σ → RequestLog → Prop) (u : Option String) (s : σ) (log : RequestLog) :
    Prop :=
  I s log ∧ ∀ v, u = some v → ∃ s₀ log₀ req r d x, I s₀ log₀ ∧
    gw.respond s₀ req = (.response r, s) ∧ log = log₀ ++ [(req, .response r)] ∧
    req.method = .post ∧ req.path = "/clients" ∧ is2xx r.status ∧ r.decode = .ok d ∧
    d.get "id" (.str "?") = .ok x ∧ v = x.toStr

/-- **What creating a client returns.** It sends one `POST /clients` and nothing else, and returns
an identifier only after a 2xx answer: `str` of the `id` of that answer's body (`"?"` when the
body has none). -/
theorem createClientInteractive_spec (I : σ → RequestLog → Prop) (E : Exc → σ → RequestLog → Prop)
    (hI : KeptBy gw (Allows [.createClient]) I) (hE : ∀ e s log, I s log → E e s log) :
    Cli.WTriple I (CreatedWith gw I) E (createClientInteractive gw) := by
  have hin : Cli.WTriple I (fun _ => I) E (input : Cli σ String) :=
    input_wtriple fun e s log _ h => hE e s log h
  have hok : ∀ req : Request, req.method = .post → req.path = "/clients" →
      Allows [.createClient] req := Call.allows .createClient (by decide) rfl rfl
  have hnone : ∀ s log, I s log → CreatedWith gw I none s log := fun _ _ h => ⟨h, nofun⟩
  refine Cli.wtriple_bind hin fun _ => Cli.wtriple_ite (fun _ => Cli.wtriple_pure hnone)
    fun _ => ?_
  refine Cli.wtriple_bind hin fun _ =>
    Cli.wtriple_bind (passwordOrGenerated_wtriple (fun e s log _ h => hE e s log h) _) fun _ => ?_
  refine Cli.wtriple_bind hin fun _ => Cli.wtriple_bind hin fun _ => Cli.wtriple_bind hin fun _ =>
    Cli.wtriple_ite (fun _ => Cli.wtriple_pure hnone) fun _ => Cli.wtriple_bind hin fun _ =>
      Cli.wtriple_bind (send_wtriple (fun e s log _ h => hE e s log h) gw _ _ _) fun o => ?_
  cases o with
  | networkError => exact Cli.wtriple_pure fun s log h => hnone s log (hI.sent hok h)
  | response r =>
    refine Cli.wtriple_ite (fun h2xx => ?_) fun _ =>
      Cli.wtriple_pure fun s log h => hnone s log (hI.sent hok h)
    refine Cli.wtriple_bind (Cli.wtriple_liftExcept_eq fun e s log _ h => hE e s log
      (hI.sent hok h)) fun d => ?_
    refine Cli.wtriple_bind (Cli.wtriple_liftExcept_eq fun e s log _ h => hE e s log
      (hI.sent hok h.2)) fun x => ?_
    exact Cli.wtriple_pure fun s log ⟨hx, hd, hsp⟩ => ⟨hI.sent hok hsp, fun v hv =>
      let ⟨s₀, log₀, req, h, hresp, hlog, hm, hp, _⟩ := hsp
      ⟨s₀, log₀, req, r, d, x, h, hresp, hlog, hm, hp, h2xx, hd, hx, (Option.some.inj hv).symm⟩⟩

theorem createClientInteractive_within :
    Cli.SendsWithin gw (Allows [.createClient]) (createClientInteractive gw) :=
  fun I E hI hE => (createClientInteractive_spec gw I E hI hE).post fun _ _ _ h => h.1

theorem getClientByIdentifier_within (identifier : String) :
    Cli.SendsWithin gw (Allows [.listClients]) (getClientByIdentifier gw identifier) :=
  (send_sendsWithin gw (Call.allows .listClients (by decide) rfl rfl)).bind fun o => by
    cases o with
    | networkError => exact Cli.sendsWithin_pure _
    | response r =>
      exact Cli.sendsWithin_ite (fun _ => Cli.sendsWithin_pure _) fun _ =>
        (Cli.sendsWithin_liftExcept _).bind fun _ => Cli.sendsWithin_liftExcept _

variable {gw}

theorem Cli.sendsWithin_lookup_bind {ks : List Call} (hks : Call.listClients ∈ ks) {α : Type}
    {identifier : String} {f : Option JVal → Cli σ α}
    (hnone : Cli.SendsWithin gw (Allows ks) (f none))
    (hsome : ∀ c, Cli.SendsWithin gw (Allows ks) (f (some c))) :
    Cli.SendsWithin gw (Allows ks) (getClientByIdentifier gw identifier >>= f) :=
  ((getClientByIdentifier_within gw identifier).widen fun _ hk =>
    List.mem_singleton.mp hk ▸ hks).bind fun v => by
      cases v with
      | none => exact hnone
      | some c => exact hsome c

variable (gw)

theorem showClientDetails_within (identifier : String) :
    Cli.SendsWithin gw (Allows [.listClients]) (showClientDetails gw identifier) :=
  Cli.sendsWithin_lookup_bind (by decide) (Cli.sendsWithin_pure _) fun _ =>
    Cli.sendsWithin_ite (fun _ => Cli.sendsWithin_pure _) fun _ => Cli.sendsWithin_liftExcept _

theorem updateClientSettings_within (identifier : String) :
    Cli.SendsWithin gw (Allows [.listClients, .updateSettings])
      (updateClientSettings gw identifier) :=
  Cli.sendsWithin_lookup_bind (by decide) (Cli.sendsWithin_pure _) fun _ =>
    Cli.sendsWithin_ite (fun _ => Cli.sendsWithin_pure _) fun _ =>
      (Cli.sendsWithin_liftExcept _).bind fun x =>
        input_sendsWithin.bind fun _ => input_sendsWithin.bind fun _ =>
          input_sendsWithin.bind fun _ => input_sendsWithin.bind fun _ =>
            Cli.sendsWithin_ite (fun _ => Cli.sendsWithin_pure _) fun _ =>
              (send_sendsWithin gw (Call.allows .updateSettings (by decide) rfl ⟨x, rfl⟩)).bind
                fun _ => Cli.sendsWithin_pure _

theorem changeClientPassword_within (identifier : String) :
    Cli.SendsWithin gw (Allows [.listClients, .changePassword])
      (changeClientPassword gw identifier) :=
  Cli.sendsWithin_lookup_bind (by decide) (Cli.sendsWithin_pure _) fun _ =>
    Cli.sendsWithin_ite (fun _ => Cli.sendsWithin_pure _) fun _ =>
      (Cli.sendsWithin_liftExcept _).bind fun x =>
        input_sendsWithin.bind fun _ => (passwordOrGenerated_sendsWithin _).bind fun _ =>
          input_sendsWithin.bind fun _ =>
            Cli.sendsWithin_ite (fun _ => Cli.sendsWithin_pure _) fun _ =>
              (send_sendsWithin gw (Call.allows .changePassword (by decide) rfl ⟨x, rfl⟩)).bind
                fun _ => Cli.sendsWithin_pure _

theorem listClientNumbers_within (username : String) :
    Cli.SendsWithin gw (Allows [.listClients]) (listClientNumbers gw username) :=
  Cli.sendsWithin_lookup_bind (by decide) (Cli.sendsWithin_pure _) fun _ =>
    Cli.sendsWithin_ite (fun _ => Cli.sendsWithin_pure _) fun _ =>
      (Cli.sendsWithin_liftExcept _).bind fun _ =>
        Cli.sendsWithin_ite (fun _ => Cli.sendsWithin_pure _) fun _ => Cli.sendsWithin_liftExcept _

theorem addNumbersToClient_within (identifier : String) (numbers : List String)
    (carrier : String) (skipExisting : Bool) :
    Cli.SendsWithin gw (Allows [.listClients, .addNumber])
      (addNumbersToClient gw identifier numbers carrier skipExisting) :=
  Cli.sendsWithin_lookup_bind (by decide) (Cli.sendsWithin_pure _) fun _ =>
    Cli.sendsWithin_ite (fun _ => Cli.sendsWithin_pure _) fun _ =>
      (Cli.sendsWithin_liftExcept _).bind fun x =>
        (Cli.sendsWithin_ite (fun _ => Cli.sendsWithin_liftExcept _) fun _ =>
          Cli.sendsWithin_pure _).bind fun _ =>
        (Cli.sendsWithin_foldlM (fun _ _ => Cli.sendsWithin_ite (fun _ => Cli.sendsWithin_pure _)
          fun _ => (send_sendsWithin gw (Call.allows .addNumber (by decide) rfl ⟨x, rfl⟩)).bind
            fun _ => Cli.sendsWithin_pure _) _).bind fun _ => Cli.sendsWithin_pure _

end Operations

/-! ## The choices -/

section Choices

variable {σ : Type} (gw : Gateway σ)

theorem addNumbersOption_within (last : Option String) :
    Cli.SendsWithin gw (Allows [.listClients, .listCarriers, .addNumber])
      (addNumbersOption gw last) :=
  (identifierOr_sendsWithin last).bind fun identifier => by
    cases identifier with
    | none => exact Cli.sendsWithin_pure _
    | some identifier =>
      exact ((listCarriers_within gw).widen (by decide)).bind fun _ =>
        (Cli.sendsWithin_liftExcept _).bind fun _ => carrierOrDefault_sendsWithin.bind fun _ =>
          readAllLines_sendsWithin.bind fun _ =>
            Cli.sendsWithin_ite (fun _ => Cli.sendsWithin_pure _) fun _ =>
              ((addNumbersToClient_within gw _ _ _ _).widen (by decide)).bind fun _ =>
                Cli.sendsWithin_pure _

theorem quickFlow_within (last : Option String) :
    Cli.SendsWithin gw (Allows (choiceCalls "q")) (quickFlow gw last) :=
  ((createClientInteractive_within gw).widen (by decide)).bind fun created => by
    cases created with
    | none => exact Cli.sendsWithin_pure _
    | some username =>
      exact Cli.sendsWithin_ite (fun _ => Cli.sendsWithin_pure _) fun _ =>
        ((listCarriers_within gw).widen (by decide)).bind fun _ =>
          carrierOrDefault_sendsWithin.bind fun _ => input_sendsWithin.bind fun _ =>
            (Cli.sendsWithin_ite (fun _ => Cli.sendsWithin_pure _) fun _ =>
              ((addNumbersToClient_within gw _ _ _ _).widen (by decide)).bind fun _ =>
                Cli.sendsWithin_pure _).bind fun _ =>
            input_sendsWithin.bind fun _ =>
              (Cli.sendsWithin_ite (fun _ => (reloadAll_within gw).widen (by decide)) fun _ =>
                Cli.sendsWithin_pure _).bind fun _ => Cli.sendsWithin_pure _

theorem menuAction_within (last : Option String) (choice : String) :
    Cli.SendsWithin gw (Allows (choiceCalls choice)) (menuAction gw last choice) := by
  have hwith : ∀ {ks : List Call} {op : String → Cli σ Unit},
      (∀ s, Cli.SendsWithin gw (Allows ks) (op s)) →
      Cli.SendsWithin gw (Allows ks) (withIdentifier last op >>= fun _ => pure (some last)) :=
    fun hop => (withIdentifier_sendsWithin last hop).bind fun _ => Cli.sendsWithin_pure _
  unfold menuAction
  split
  · exact (listCarriers_within gw).bind fun _ => Cli.sendsWithin_pure _
  · exact (createCarrierInteractive_within gw).bind fun _ => Cli.sendsWithin_pure _
  · exact (listClients_within gw).bind fun _ => Cli.sendsWithin_pure _
  · exact hwith (showClientDetails_within gw)
  · exact (createClientInteractive_within gw).bind fun _ => Cli.sendsWithin_pure _
  · exact hwith (updateClientSettings_within gw)
  · exact hwith (changeClientPassword_within gw)
  · exact hwith (listClientNumbers_within gw)
  · exact (addNumbersOption_within gw last).bind fun _ => Cli.sendsWithin_pure _
  · exact (reloadAll_within gw).bind fun _ => Cli.sendsWithin_pure _
  · exact (quickFlow_within gw last).bind fun _ => Cli.sendsWithin_pure _
  · exact Cli.sendsWithin_pure _
  · exact Cli.sendsWithin_pure _

/-- **Each choice sends only what it is written to send.** For every gateway, every `last_client`
and every choice, the requests one round of the menu sends, however it ends, are of the kinds
`choiceCalls` lists for the choice: none for `0` and for a choice the menu does not offer. -/
theorem menuAction_sends_choiceCalls (last : Option String) (choice : String) (w : World σ) :
    ∃ new, (Cli.world (menuAction gw last choice w)).log = w.log ++ new ∧
      ∀ e ∈ new, Allows (choiceCalls choice) e.1 := by
  have hI : KeptBy gw (Allows (choiceCalls choice)) fun _ log =>
      ∃ new, log = w.log ++ new ∧ ∀ e ∈ new, Allows (choiceCalls choice) e.1 := by
    rintro s log req hreq ⟨new, rfl, hnew⟩
    refine ⟨new ++ [(req, _)], List.append_assoc _ _ _, fun e he => ?_⟩
    rcases List.mem_append.mp he with he | he
    · exact hnew e he
    · rw [List.mem_singleton.mp he]
      exact hreq
  exact (menuAction_within gw last choice _ _ hI fun _ _ _ h => h).world
    (show ∃ new, w.log = w.log ++ new ∧ _ from ⟨[], (List.append_nil _).symm, nofun⟩)

/-- **Choices 1, 3, 4 and 8 only read.** Against a gateway whose `GET`s leave its state as they
find it, one round of the menu on `1`, `3`, `4` or `8` leaves the gateway's state as it found it,
whatever the operator types and however the round ends. -/
theorem menuAction_readOnly {gw : Gateway σ}
    (hget : ∀ s req, req.method = .get → (gw.respond s req).2 = s) (last : Option String)
    {choice : String} (hchoice : choice ∈ ["1", "3", "4", "8"]) (w : World σ) :
    (Cli.world (menuAction gw last choice w)).server = w.server := by
  have hread : ∀ k ∈ choiceCalls choice, k.method = .get := by
    simp only [List.mem_cons, List.mem_singleton, List.not_mem_nil, or_false] at hchoice
    rcases hchoice with rfl | rfl | rfl | rfl <;> decide
  have hI : KeptBy gw (Allows (choiceCalls choice)) fun s _ => s = w.server :=
    fun s _ req ⟨k, hk, hm, _⟩ hs => (hget s req (hm.trans (hread k hk))).trans hs
  exact (menuAction_within gw last choice _ _ hI fun _ _ _ h => h).world (w := w) rfl

/-- A gateway that counts the requests that are not `GET`s, and answers each with 200 and `[]`. -/
def countingGateway : Gateway Nat where
  respond n req := (.response ⟨200, "", some (.arr [])⟩, if req.method = .get then n else n + 1)

theorem menuAction_readOnly_counting :
    (∀ s req, req.method = .get → (countingGateway.respond s req).2 = s) ∧
      "4" ∈ ["1", "3", "4", "8"] ∧
      (Cli.world (menuAction countingGateway none "4"
        ⟨⟨none, some "key"⟩, [.line "b"], [], 5, []⟩)).server = 5 :=
  ⟨fun _ _ hm => if_pos hm, by decide,
    menuAction_readOnly (fun _ _ hm => if_pos hm) none (by decide) _⟩

end Choices

end MsggwManager

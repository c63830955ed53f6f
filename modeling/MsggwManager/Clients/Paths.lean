import MsggwManager.Choices

/-!
# Which clients the script's requests name

Three requests of the script name a client in their path: `PUT /clients/{id}/settings`,
`PATCH /clients/{id}/password` and `POST /clients/{id}/numbers`. The `{id}` is never what the
operator typed: the script looks the identifier up in `GET /clients` and puts into the path what
`client.get("id")` reads of the client the scans found. So whatever the operator types and whatever
the gateway answers, every request of a session goes to a path that names no client, or to a path
of a client listed by a 200 answer to `GET /clients` earlier in the same session
(`main_requests_listed_clients`).

Proof. An operation that sends only requests whose paths name no client (`fixedCalls`: the
carrier and client listings and creations, and the reloads) keeps every assertion that such a
request keeps (`Cli.SendsWithin`). `ScopedSince L₀ log` says
that the log is `L₀` followed by requests each scoped by the entries before it (`Scoped`), and
`ScopedWith L₀ x log` that those entries also list the id `x`. The operations that name no client
keep `ScopedSince` (`Cli.SendsWithin.keepsScoped`), a request to a path of `x` keeps
`ScopedWith L₀ x` (`send_client_scoped`), and the lookup returns a client only with `ScopedWith`
for the id `.get("id")` reads of it (`getClientByIdentifier_scoped`). Every operation of the menu,
and so a whole session, keeps `ScopedSince` from the log it starts with.
-/

namespace MsggwManager

/-- The paths of the script's requests that name no client. -/
def fixedPaths : List String := ["/carriers", "/carriers/reload", "/clients", "/clients/reload"]

/-- The paths of the script's requests about the client of id `x`. -/
def clientPaths (x : JVal) : List String := [settingsPath x, passwordPath x, numbersPath x]

/-! ## Requests that name no client -/

section Fixed

variable {σ : Type} {gw : Gateway σ}

/-- The kinds of request whose path names no client. -/
def fixedCalls : List Call :=
  [.listCarriers, .createCarrier, .reloadCarriers, .listClients, .createClient, .reloadClients]

theorem Allows.path_mem_fixed {ks : List Call} (hks : ks ⊆ fixedCalls) {req : Request}
    (h : Allows ks req) : req.path ∈ fixedPaths := by
  obtain ⟨k, hk, -, hp⟩ := h
  have hk := hks hk
  simp only [fixedCalls, List.mem_cons, List.mem_singleton, List.not_mem_nil, or_false] at hk
  rcases hk with rfl | rfl | rfl | rfl | rfl | rfl <;> simp only [Call.HasPath] at hp <;>
    simp [hp, fixedPaths]

variable (gw) in
/-- A request to a path that names no client keeps `I`, whatever the gateway answers. -/
def KeptByFixed (I : σ → RequestLog → Prop) : Prop :=
  KeptBy gw (fun req => req.path ∈ fixedPaths) I

theorem KeptByFixed.calls {I : σ → RequestLog → Prop} (hI : KeptByFixed gw I) {ks : List Call}
    (hks : ks ⊆ fixedCalls) : KeptBy gw (Allows ks) I :=
  KeptBy.mono hI fun _ h => h.path_mem_fixed hks

theorem KeptByFixed.sent {I : σ → RequestLog → Prop} (hI : KeptByFixed gw I) {o : Outcome} {s : σ}
    {log : RequestLog} {method : Method} {path : String}
    {payload : Option (List (String × JVal))} (hpath : path ∈ fixedPaths)
    (h : ∃ s₀ log₀ req, I s₀ log₀ ∧ gw.respond s₀ req = (o, s) ∧ log = log₀ ++ [(req, o)] ∧
      req.method = method ∧ req.path = path ∧ req.payload = payload) : I s log :=
  KeptBy.sent hI (fun _ _ hp => hp ▸ hpath) h

end Fixed

/-- `x` is what `.get("id")` reads of a client that a 200 answer to `GET /clients` in `log`
lists. -/
def ListedId (log : RequestLog) (x : JVal) : Prop :=
  ∃ req r v items c, (req, .response r) ∈ log ∧ req.method = .get ∧ req.path = "/clients" ∧
    r.status = 200 ∧ r.decode = .ok v ∧ v.iter = .ok items ∧ c ∈ items ∧
    c.get "id" .null = .ok x

/-- A request goes to a path that names no client, or to a path of a client whose id `log`
lists. -/
def ClientScoped (log : RequestLog) (req : Request) : Prop :=
  req.path ∈ fixedPaths ∨ ∃ x, ListedId log x ∧ req.path ∈ clientPaths x

/-- Every request of `log` is scoped by the entries before it. -/
def Scoped (log : RequestLog) : Prop :=
  ∀ pre e post, log = pre ++ e :: post → ClientScoped pre e.1

theorem ListedId.append {log : RequestLog} {x : JVal} (h : ListedId log x) (more : RequestLog) :
    ListedId (log ++ more) x :=
  let ⟨req, r, v, items, c, hmem, hrest⟩ := h
  ⟨req, r, v, items, c, List.mem_append_left more hmem, hrest⟩

theorem scoped_nil : Scoped [] := fun pre _ _ h => by simp at h

theorem Scoped.snoc {log : RequestLog} {e : Request × Outcome} (h : Scoped log)
    (he : ClientScoped log e.1) : Scoped (log ++ [e]) := by
  intro pre e' post hsplit
  rcases List.eq_nil_or_concat post with rfl | ⟨post, y, rfl⟩
  · obtain ⟨rfl, ⟨⟩⟩ := List.append_inj' hsplit rfl
    exact he
  · rw [List.concat_eq_append, ← List.cons_append, ← List.append_assoc] at hsplit
    exact h pre e' post (List.append_inj' hsplit rfl).1

/-! ## What the scans return -/

theorem scanId_mem {s : String} {c : JVal} :
    ∀ {items : List JVal}, scanId s items = .ok (some c) → c ∈ items
  | [], h => by cases h
  | c' :: rest, h => by
    cases hg : c'.get "id" .null <;> cases hn : Py.int s <;>
      simp [scanId, hg, hn, bind, Except.bind, pure, Except.pure, throw, throwThe,
        MonadExceptOf.throw] at h
    split at h
    · cases h; exact List.mem_cons_self _ _
    · exact List.mem_cons_of_mem _ (scanId_mem h)

theorem scanUsername_mem {s : String} {c : JVal} :
    ∀ {items : List JVal}, scanUsername s items = .ok (some c) → c ∈ items
  | [], h => by cases h
  | c' :: rest, h => by
    cases hg : c'.get "username" .null <;>
      simp [scanUsername, hg, bind, Except.bind, pure, Except.pure] at h
    split at h
    · cases h; exact List.mem_cons_self _ _
    · exact List.mem_cons_of_mem _ (scanUsername_mem h)

theorem findClient_mem {v : JVal} {s : String} {c : JVal} (h : findClient v s = .ok (some c)) :
    ∃ items, v.iter = .ok items ∧ c ∈ items := by
  cases hv : v.iter with
  | error e =>
    cases hd : Py.isdigit s <;> simp [findClient, hv, hd, bind, Except.bind, pure, Except.pure] at h
  | ok items =>
    refine ⟨items, rfl, ?_⟩
    rcases hi : scanId s items with _ | _ | c' <;> cases hd : Py.isdigit s <;>
      simp [findClient, hv, hd, hi, bind, Except.bind, pure, Except.pure] at h
    case ok.some.true => exact h ▸ scanId_mem hi
    all_goals exact scanUsername_mem h

/-! ## Logs scoped since a start -/

section Since

variable (L₀ : RequestLog)

/-- The log is `L₀` followed by requests, each scoped by those after `L₀` before it. -/
def ScopedSince (log : RequestLog) : Prop := ∃ new, log = L₀ ++ new ∧ Scoped new

/-- The same, where the requests after `L₀` list the id `x`. -/
def ScopedWith (x : JVal) (log : RequestLog) : Prop :=
  ∃ new, log = L₀ ++ new ∧ Scoped new ∧ ListedId new x

/-- `ScopedSince L₀`, where every id `.get("id")` reads of `c` is listed. -/
def ScopedFor (c : JVal) (log : RequestLog) : Prop :=
  ScopedSince L₀ log ∧ ∀ x, c.get "id" .null = .ok x → ScopedWith L₀ x log

/-- `x` keeps the requests after `L₀` scoped, however it ends. -/
def Cli.KeepsScoped {σ α : Type} (x : Cli σ α) : Prop :=
  Cli.Triple (ScopedSince L₀) (fun _ => ScopedSince L₀) (fun _ => ScopedSince L₀) x

variable {L₀}

theorem ScopedWith.since {x : JVal} {log : RequestLog} (h : ScopedWith L₀ x log) :
    ScopedSince L₀ log :=
  let ⟨new, hlog, hs, _⟩ := h
  ⟨new, hlog, hs⟩

theorem ScopedSince.snoc {log : RequestLog} {req : Request} (o : Outcome)
    (h : ScopedSince L₀ log) (hpath : req.path ∈ fixedPaths) :
    ScopedSince L₀ (log ++ [(req, o)]) :=
  let ⟨new, hlog, hs⟩ := h
  ⟨new ++ [(req, o)], by rw [hlog, List.append_assoc], hs.snoc (.inl hpath)⟩

theorem ScopedWith.snoc {x : JVal} {log : RequestLog} {req : Request} (o : Outcome)
    (h : ScopedWith L₀ x log) (hpath : req.path ∈ clientPaths x) :
    ScopedWith L₀ x (log ++ [(req, o)]) :=
  let ⟨new, hlog, hs, hx⟩ := h
  ⟨new ++ [(req, o)], by rw [hlog, List.append_assoc], hs.snoc (.inr ⟨x, hx, hpath⟩),
    hx.append _⟩

end Since

/-! ## The requests -/

section Requests

variable {σ : Type} {L₀ : RequestLog} (gw : Gateway σ)

theorem Cli.SendsWithin.keepsScoped {gw : Gateway σ} {ks : List Call} {α : Type} {x : Cli σ α}
    (h : Cli.SendsWithin gw (Allows ks) x) (hks : ks ⊆ fixedCalls) : Cli.KeepsScoped L₀ x :=
  h (fun _ => ScopedSince L₀) (fun _ _ => ScopedSince L₀)
    (fun _ _ _ hreq h => h.snoc _ (hreq.path_mem_fixed hks)) fun _ _ _ h => h

theorem send_client_scoped {method : Method} {path : String}
    {payload : Option (List (String × JVal))} {x : JVal} (hpath : path ∈ clientPaths x) :
    Cli.Triple (ScopedWith L₀ x) (fun _ => ScopedWith L₀ x) (fun _ => ScopedSince L₀)
      (send gw method path payload) :=
  (send_triple (fun _ _ _ h => h.since) gw method path payload).post
    fun _ _ ⟨_, _, h, hlog, _, hp, _⟩ => hlog ▸ h.snoc _ (hp ▸ hpath)

/-- **The lookup returns only a listed client.** It keeps the session scoped, and the entries since
`L₀` list every id `.get("id")` reads of the client it returns: its own `GET /clients` does. -/
theorem getClientByIdentifier_scoped (identifier : String) :
    Cli.Triple (ScopedSince L₀)
      (fun v log => ScopedSince L₀ log ∧ ∀ c, v = some c → ScopedFor L₀ c log)
      (fun _ => ScopedSince L₀) (getClientByIdentifier gw identifier) := by
  refine Cli.triple_bind (send_triple (fun _ _ _ h => h) gw .get "/clients" none) fun o => ?_
  have hsince : ∀ log, (∃ log₀ req, ScopedSince L₀ log₀ ∧ log = log₀ ++ [(req, o)] ∧
      req.method = .get ∧ req.path = "/clients" ∧ req.payload = none) → ScopedSince L₀ log :=
    fun _ ⟨_, _, h, hlog, _, hp, _⟩ => hlog ▸ h.snoc _ (hp ▸ by decide)
  cases o with
  | networkError => exact Cli.triple_pure fun log h => ⟨hsince log h, by simp⟩
  | response r =>
    refine Cli.triple_ite (fun _ => Cli.triple_pure fun log h => ⟨hsince log h, by simp⟩)
      fun h200 => ?_
    refine Cli.triple_bind (Cli.triple_liftExcept_eq fun _ log _ h => hsince log h) fun v => ?_
    refine (Cli.triple_liftExcept_eq fun _ log _ h => hsince log h.2).post
      fun found log ⟨hfind, hdec, hsent⟩ => ⟨hsince log hsent, fun c hc => ⟨hsince log hsent,
        fun x hx => ?_⟩⟩
    obtain ⟨log₀, req, ⟨new, rfl, hs⟩, rfl, hm, hp, -⟩ := hsent
    obtain ⟨items, hiter, hmem⟩ := findClient_mem (hc ▸ hfind)
    refine ⟨new ++ [(req, .response r)], List.append_assoc _ _ _,
      hs.snoc (.inl (hp ▸ by decide)), req, r, v, items, c, by simp, hm, hp, ?_, hdec, hiter,
      hmem, hx⟩
    simpa using h200

end Requests

/-! ## The operations -/

section Operations

variable {σ : Type} {L₀ : RequestLog} {gw : Gateway σ}

theorem Cli.scoped_lookup_bind {α : Type} {Q : α → RequestLog → Prop} {identifier : String}
    {f : Option JVal → Cli σ α}
    (hnone : Cli.Triple (ScopedSince L₀) Q (fun _ => ScopedSince L₀) (f none))
    (hsome : ∀ c, Cli.Triple (ScopedFor L₀ c) Q (fun _ => ScopedSince L₀) (f (some c))) :
    Cli.Triple (ScopedSince L₀) Q (fun _ => ScopedSince L₀)
      (getClientByIdentifier gw identifier >>= f) :=
  Cli.triple_bind (getClientByIdentifier_scoped gw identifier) fun v => by
    cases v with
    | none => exact hnone.pre fun _ h => h.1
    | some c => exact (hsome c).pre fun _ h => h.2 c rfl

theorem Cli.scoped_id_bind {α : Type} {Q : α → RequestLog → Prop} {c : JVal}
    {f : JVal → Cli σ α}
    (hf : ∀ x, Cli.Triple (ScopedWith L₀ x) Q (fun _ => ScopedSince L₀) (f x)) :
    Cli.Triple (ScopedFor L₀ c) Q (fun _ => ScopedSince L₀)
      (liftExcept (c.get "id" .null) >>= f) :=
  Cli.triple_bind (Cli.triple_liftExcept_eq fun _ _ _ h => h.1) fun x =>
    (hf x).pre fun _ ⟨hx, h⟩ => h.2 x hx

theorem showClientDetails_scoped (identifier : String) :
    Cli.KeepsScoped L₀ (showClientDetails gw identifier) :=
  Cli.scoped_lookup_bind (Cli.triple_pure fun _ h => h) fun _ =>
    Cli.triple_ite (fun _ => Cli.triple_pure fun _ h => h.1) fun _ =>
      (Cli.triple_liftExcept fun _ _ _ h => h.1).post fun _ _ h => h.1

/-- **Settings go to a listed client.** -/
theorem updateClientSettings_scoped (identifier : String) :
    Cli.KeepsScoped L₀ (updateClientSettings gw identifier) :=
  Cli.scoped_lookup_bind (Cli.triple_pure fun _ h => h) fun _ =>
    Cli.triple_ite (fun _ => Cli.triple_pure fun _ h => h.1) fun _ => Cli.scoped_id_bind fun x =>
      have hin : Cli.Triple (ScopedWith L₀ x) (fun _ => ScopedWith L₀ x)
          (fun _ => ScopedSince L₀) (input : Cli σ String) := input_triple fun _ _ _ h => h.since
      Cli.triple_bind hin fun _ => Cli.triple_bind hin fun _ => Cli.triple_bind hin fun _ =>
        Cli.triple_bind hin fun _ =>
          Cli.triple_ite (fun _ => Cli.triple_pure fun _ h => h.since) fun _ =>
            Cli.triple_bind (send_client_scoped gw (by simp [clientPaths])) fun _ =>
              Cli.triple_pure fun _ h => h.since

/-- **A new password goes to a listed client.** -/
theorem changeClientPassword_scoped (identifier : String) :
    Cli.KeepsScoped L₀ (changeClientPassword gw identifier) :=
  Cli.scoped_lookup_bind (Cli.triple_pure fun _ h => h) fun _ =>
    Cli.triple_ite (fun _ => Cli.triple_pure fun _ h => h.1) fun _ => Cli.scoped_id_bind fun x =>
      have hin : Cli.Triple (ScopedWith L₀ x) (fun _ => ScopedWith L₀ x)
          (fun _ => ScopedSince L₀) (input : Cli σ String) := input_triple fun _ _ _ h => h.since
      Cli.triple_bind hin fun _ =>
        Cli.triple_bind (passwordOrGenerated_triple (fun _ _ _ h => h.since) _) fun _ =>
          Cli.triple_bind hin fun _ =>
            Cli.triple_ite (fun _ => Cli.triple_pure fun _ h => h.since) fun _ =>
              Cli.triple_bind (send_client_scoped gw (by simp [clientPaths])) fun _ =>
                Cli.triple_pure fun _ h => h.since

theorem listClientNumbers_scoped (username : String) :
    Cli.KeepsScoped L₀ (listClientNumbers gw username) :=
  Cli.scoped_lookup_bind (Cli.triple_pure fun _ h => h) fun _ =>
    Cli.triple_ite (fun _ => Cli.triple_pure fun _ h => h.1) fun _ =>
      Cli.triple_bind (Cli.triple_liftExcept fun _ _ _ h => h.1) fun _ =>
        Cli.triple_ite (fun _ => Cli.triple_pure fun _ h => h.1) fun _ =>
          (Cli.triple_liftExcept fun _ _ _ h => h.1).post fun _ _ h => h.1

theorem addNumber_scoped (x : JVal) (carrier : String) (acc : List JVal × Tally) (num : String) :
    Cli.Triple (ScopedWith L₀ x) (fun _ => ScopedWith L₀ x) (fun _ => ScopedSince L₀)
      (addNumber gw x carrier acc num) :=
  Cli.triple_ite (fun _ => Cli.triple_pure fun _ h => h) fun _ =>
    Cli.triple_bind (send_client_scoped gw (by simp [clientPaths])) fun _ =>
      Cli.triple_pure fun _ h => h

theorem addNumbersLoop_scoped (x : JVal) (carrier : String) (existing : List JVal)
    (numbers : List String) :
    Cli.Triple (ScopedWith L₀ x) (fun _ => ScopedWith L₀ x) (fun _ => ScopedSince L₀)
      (addNumbersLoop gw x carrier existing numbers) :=
  Cli.triple_foldlM (fun _ _ _ => addNumber_scoped x carrier _ _) _

/-- **Numbers go to a listed client**: the loop posts only to the numbers path of the id the lookup
read. -/
theorem addNumbersToClient_scoped (identifier : String) (numbers : List String)
    (carrier : String) (skipExisting : Bool) :
    Cli.KeepsScoped L₀ (addNumbersToClient gw identifier numbers carrier skipExisting) :=
  Cli.scoped_lookup_bind (Cli.triple_pure fun _ h => h) fun _ =>
    Cli.triple_ite (fun _ => Cli.triple_pure fun _ h => h.1) fun _ => Cli.scoped_id_bind fun x =>
      Cli.triple_bind (Q := fun _ => ScopedWith L₀ x)
        (Cli.triple_ite (fun _ => Cli.triple_liftExcept fun _ _ _ h => h.since)
          fun _ => Cli.triple_pure fun _ h => h) fun _ =>
        Cli.triple_bind (addNumbersLoop_scoped x carrier _ numbers) fun _ =>
          Cli.triple_pure fun _ h => h.since

end Operations

/-! ## The menu -/

section Menu

variable {σ : Type} {L₀ : RequestLog} {gw : Gateway σ}

theorem addNumbersOption_scoped (last : Option String) :
    Cli.KeepsScoped L₀ (addNumbersOption gw last) := by
  refine Cli.triple_bind (identifierOr_triple (fun _ _ _ h => h) last) fun identifier => ?_
  cases identifier with
  | none => exact Cli.triple_pure fun _ h => h
  | some identifier =>
    refine Cli.triple_bind ((listCarriers_within gw).keepsScoped (by decide)) fun _ =>
      Cli.triple_bind (Cli.triple_liftExcept fun _ _ _ h => h) fun _ => ?_
    refine Cli.triple_bind (carrierOrDefault_triple fun _ _ _ h => h) fun _ =>
      Cli.triple_bind (readAllLines_triple fun _ _ _ h => h) fun _ => ?_
    exact Cli.triple_ite (fun _ => Cli.triple_pure fun _ h => h) fun _ =>
      Cli.triple_bind (addNumbersToClient_scoped _ _ _ _) fun _ => Cli.triple_pure fun _ h => h

theorem quickFlow_scoped (last : Option String) : Cli.KeepsScoped L₀ (quickFlow gw last) := by
  have hin : Cli.KeepsScoped L₀ (input : Cli σ String) := input_triple fun _ _ _ h => h
  refine Cli.triple_bind ((createClientInteractive_within gw).keepsScoped (by decide))
    fun created => ?_
  cases created with
  | none => exact Cli.triple_pure fun _ h => h
  | some username =>
    refine Cli.triple_ite (fun _ => Cli.triple_pure fun _ h => h) fun _ => ?_
    refine Cli.triple_bind ((listCarriers_within gw).keepsScoped (by decide)) fun _ =>
      Cli.triple_bind (carrierOrDefault_triple fun _ _ _ h => h) fun _ =>
        Cli.triple_bind hin fun _ => Cli.triple_bind (Q := fun _ => ScopedSince L₀) ?_ fun _ => ?_
    · exact Cli.triple_ite (fun _ => Cli.triple_pure fun _ h => h) fun _ =>
        Cli.triple_bind (addNumbersToClient_scoped _ _ _ _) fun _ => Cli.triple_pure fun _ h => h
    · exact Cli.triple_bind hin fun _ => Cli.triple_bind
        (Cli.triple_ite (fun _ => ((reloadAll_within gw).keepsScoped (by decide))) fun _ =>
          Cli.triple_pure fun _ h => h)
        fun _ => Cli.triple_pure fun _ h => h

theorem menuAction_scoped (last : Option String) (choice : String) :
    Cli.KeepsScoped L₀ (menuAction gw last choice) := by
  have hwith : ∀ {op : String → Cli σ Unit}, (∀ s, Cli.KeepsScoped L₀ (op s)) →
      Cli.KeepsScoped L₀ (withIdentifier last op) :=
    withIdentifier_triple (fun _ _ _ h => h) last
  unfold menuAction
  split
  · exact Cli.triple_bind ((listCarriers_within gw).keepsScoped (by decide)) fun _ =>
      Cli.triple_pure fun _ h => h
  · exact Cli.triple_bind ((createCarrierInteractive_within gw).keepsScoped (by decide)) fun _ =>
      Cli.triple_pure fun _ h => h
  · exact Cli.triple_bind ((listClients_within gw).keepsScoped (by decide)) fun _ =>
      Cli.triple_pure fun _ h => h
  · exact Cli.triple_bind (hwith showClientDetails_scoped) fun _ => Cli.triple_pure fun _ h => h
  · exact Cli.triple_bind ((createClientInteractive_within gw).keepsScoped (by decide)) fun _ =>
      Cli.triple_pure fun _ h => h
  · exact Cli.triple_bind (hwith updateClientSettings_scoped) fun _ =>
      Cli.triple_pure fun _ h => h
  · exact Cli.triple_bind (hwith changeClientPassword_scoped) fun _ =>
      Cli.triple_pure fun _ h => h
  · exact Cli.triple_bind (hwith listClientNumbers_scoped) fun _ => Cli.triple_pure fun _ h => h
  · exact Cli.triple_bind (addNumbersOption_scoped last) fun _ => Cli.triple_pure fun _ h => h
  · exact Cli.triple_bind ((reloadAll_within gw).keepsScoped (by decide)) fun _ =>
      Cli.triple_pure fun _ h => h
  · exact Cli.triple_bind (quickFlow_scoped last) fun _ => Cli.triple_pure fun _ h => h
  · exact Cli.triple_pure fun _ h => h
  · exact Cli.triple_pure fun _ h => h

theorem menuLoop_scoped :
    ∀ (fuel : Nat) (last : Option String), Cli.KeepsScoped L₀ (menuLoop gw fuel last)
  | 0, _ => Cli.triple_pure fun _ h => h
  | fuel + 1, _ => Cli.triple_bind (input_triple fun _ _ _ h => h) fun _ =>
    Cli.triple_bind (menuAction_scoped _ _) fun r => by
      cases r with
      | none => exact Cli.triple_pure fun _ h => h
      | some last' => exact menuLoop_scoped fuel last'

end Menu

/-- **No typed text reaches a path.** Whatever the operator types and whatever the gateway sends,
every request of a session goes to a path that names no client, or to the settings, password or
numbers path of an id that `.get("id")` read of a client listed by a 200 answer to `GET /clients`
earlier in the same session. -/
theorem main_requests_listed_clients {σ : Type} (gw : Gateway σ) (w : World σ) :
    ∃ new, (Cli.world (main gw w)).log = w.log ++ new ∧
      ∀ pre e post, new = pre ++ e :: post →
        e.1.path ∈ fixedPaths ∨ ∃ x, ListedId pre x ∧ e.1.path ∈ clientPaths x := by
  have hloop : Cli.KeepsScoped w.log (menuLoop gw (w.keys.length + 1) none) := menuLoop_scoped _ _
  have h := hloop.world
    (show ScopedSince w.log w.log from ⟨[], (List.append_nil _).symm, scoped_nil⟩)
  have hworld : Cli.world (main gw w) = Cli.world (menuLoop gw (w.keys.length + 1) none w) := by
    unfold main menu
    cases menuLoop gw (w.keys.length + 1) none w with
    | ok => rfl
    | error e => cases e <;> rfl
  rw [hworld]
  exact h

end MsggwManager

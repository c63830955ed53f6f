import MsggwManager.Clients.Paths

/-!
# The quick flow adds its numbers to the client it creates

Option `q` creates a client, and `create_client_interactive` returns `str` of the new client's `id`
rather than its username; the flow passes that string to `add_numbers_to_client`, whose lookup
reads a string of digits as an id. Against a gateway that registers the clients it creates
(`RegistersClients`: it lists its clients, of distinct ids, at `GET /clients`, no request drops an
id, and it answers an accepted `POST /clients` with the record of a client it then lists), every
number the quick flow posts goes to the numbers path of the client whose record answered the
flow's own `POST /clients` (`quickFlow_adds_to_created`).

Proof. Until the creation is answered the flow sends nothing to a numbers path (`NoNumberPosts`).
From then on the invariant `PostsTo clients L₀ c` holds: the gateway lists a client of `c`'s id,
the log holds the creation's answer with `c`'s record, and every request to a numbers path goes to
`c`'s. The operations that name no client keep it (`KeptByFixed.calls`), and so does the lookup of
`str(c.id)`, which finds `c`'s id among clients of distinct ids (`findClient_toString`), and the
loop that posts to the id the lookup read.

The same string is what option 5 leaves as `last_client`, so the menu's memory carries the created
client from one round to the next: after option 5, an option 9 whose identifier is left blank adds
its numbers to the client option 5 created (`menuAction_blank_adds_to_created`).
-/

namespace MsggwManager

variable {σ : Type}

/-- The gateway registers the clients it creates. From every state `s` it lists `clients s`, of
distinct ids, at `GET /clients`; no request drops an id; and its 2xx answer to a `POST /clients` is
the record of a client, of a non-negative id, that the state it leaves lists. -/
structure RegistersClients (gw : Gateway σ) (clients : σ → List ClientRecord) : Prop where
  lists : ∀ s, ListsClients gw s (clients s)
  nodup : ∀ s, ((clients s).map (·.id)).Nodup
  keepsIds : ∀ s req, ∀ c ∈ clients s, ∃ c' ∈ clients (gw.respond s req).2, c'.id = c.id
  creates : ∀ s req r, req.method = .post → req.path = "/clients" →
    (gw.respond s req).1 = .response r → is2xx r.status →
    ∃ c ∈ clients (gw.respond s req).2, 0 ≤ c.id ∧ r.json = some c.toJVal

theorem ne_numbersPath_of_fixed {path : String} (hpath : path ∈ fixedPaths) (x : JVal) :
    path ≠ numbersPath x := by
  intro h
  have hlen := length_numbersPath x
  rw [← h] at hlen
  simp only [fixedPaths, List.mem_cons, List.mem_singleton, List.not_mem_nil, or_false] at hpath
  rcases hpath with rfl | rfl | rfl | rfl <;> exact absurd hlen (by decide)

theorem ClientRecord.get_id_toStr (c : ClientRecord) :
    c.toJVal.get "id" (.str "?") = .ok (.num c.id) := by
  simp [ClientRecord.toJVal, JVal.get, c.id_field]

/-! ## The invariants -/

section Invariants

variable (clients : σ → List ClientRecord) (L₀ : RequestLog)

/-- No request since `L₀` goes to a numbers path. -/
def NoNumberPosts (log : RequestLog) : Prop :=
  ∃ new, log = L₀ ++ new ∧ ∀ e ∈ new, ∀ x, e.1.path ≠ numbersPath x

/-- Once the flow has created `c`: the gateway lists a client of `c`'s id, the answer with `c`'s
record to a `POST /clients` is in the log since `L₀`, and every request since `L₀` to a numbers
path goes to `c`'s. -/
def PostsTo (c : ClientRecord) (s : σ) (log : RequestLog) : Prop :=
  (∃ c' ∈ clients s, c'.id = c.id) ∧ ∃ new, log = L₀ ++ new ∧
    (∃ req r, (req, .response r) ∈ new ∧ req.method = .post ∧ req.path = "/clients" ∧
      r.json = some c.toJVal) ∧
    ∀ e ∈ new, ∀ x, e.1.path = numbersPath x → e.1.path = numbersPath (.num c.id)

/-- What the quick flow keeps, however it ends. -/
def QuickInv (s : σ) (log : RequestLog) : Prop :=
  NoNumberPosts L₀ log ∨ ∃ c, PostsTo clients L₀ c s log

variable {clients L₀} {gw : Gateway σ}

theorem NoNumberPosts.kept : KeptByFixed gw fun _ => NoNumberPosts L₀ := by
  rintro _ _ req hpath ⟨new, rfl, hnew⟩
  refine ⟨new ++ [(req, _)], List.append_assoc _ _ _, fun e he x => ?_⟩
  rcases List.mem_append.mp he with he | he
  · exact hnew e he x
  · rw [List.mem_singleton.mp he]
    exact ne_numbersPath_of_fixed hpath x

theorem PostsTo.snoc (hreg : RegistersClients gw clients) {c : ClientRecord} {s : σ}
    {log : RequestLog} {req : Request} (h : PostsTo clients L₀ c s log)
    (hpath : req.path ∈ fixedPaths ∨ req.path = numbersPath (.num c.id)) :
    PostsTo clients L₀ c (gw.respond s req).2 (log ++ [(req, (gw.respond s req).1)]) := by
  obtain ⟨⟨c', hc', hid⟩, new, rfl, ⟨req₀, r₀, hmem, hcreate⟩, hnew⟩ := h
  obtain ⟨c'', hc'', hid'⟩ := hreg.keepsIds s req c' hc'
  refine ⟨⟨c'', hc'', hid'.trans hid⟩, new ++ [(req, _)], List.append_assoc _ _ _,
    ⟨req₀, r₀, List.mem_append_left _ hmem, hcreate⟩, fun e he x hx => ?_⟩
  rcases List.mem_append.mp he with he | he
  · exact hnew e he x hx
  · rw [List.mem_singleton.mp he] at hx ⊢
    rcases hpath with hpath | hpath
    · exact absurd hx (ne_numbersPath_of_fixed hpath x)
    · exact hpath

theorem PostsTo.kept (hreg : RegistersClients gw clients) (c : ClientRecord) :
    KeptByFixed gw (PostsTo clients L₀ c) :=
  fun _ _ _ hpath h => h.snoc hreg (.inl hpath)

theorem QuickInv.adds_to_created {s : σ} {log : RequestLog} (h : QuickInv clients L₀ s log) :
    ∃ new, log = L₀ ++ new ∧ ∀ e ∈ new, ∀ x, e.1.path = numbersPath x →
      ∃ req r, ∃ c : ClientRecord, (req, .response r) ∈ new ∧ req.method = .post ∧
        req.path = "/clients" ∧ r.json = some c.toJVal ∧ e.1.path = numbersPath (.num c.id) := by
  rcases h with ⟨new, hlog, hno⟩ | ⟨c, -, new, hlog, ⟨req, r, hmem, hm, hp, hjson⟩, hnew⟩
  · exact ⟨new, hlog, fun e he x hx => absurd hx (hno e he x)⟩
  · exact ⟨new, hlog, fun e he x hx => ⟨req, r, c, hmem, hm, hp, hjson, hnew e he x hx⟩⟩

end Invariants

/-! ## Adding numbers to the created client -/

section Registered

variable {clients : σ → List ClientRecord} {L₀ : RequestLog} {gw : Gateway σ}
  (hreg : RegistersClients gw clients)
include hreg

/-- **The lookup of `str(c.id)` finds `c`'s id.** Where the gateway lists a client of `c`'s id, the
client the lookup returns has `c`'s id. -/
theorem getClientByIdentifier_registered {c : ClientRecord} (hc : 0 ≤ c.id) :
    Cli.WTriple (PostsTo clients L₀ c)
      (fun v s log => PostsTo clients L₀ c s log ∧
        ∀ cl, v = some cl → cl.get "id" .null = .ok (.num c.id))
      (fun _ => QuickInv clients L₀) (getClientByIdentifier gw (toString c.id)) := by
  refine Cli.wtriple_bind (send_wtriple (fun _ _ _ _ h => .inr ⟨c, h⟩) gw .get "/clients" none)
    fun o => ?_
  have hkept : KeptByFixed gw (PostsTo clients L₀ c) := PostsTo.kept hreg c
  cases o with
  | networkError => exact Cli.wtriple_pure fun s log h => ⟨hkept.sent (by decide) h, nofun⟩
  | response r =>
    refine Cli.wtriple_ite
      (fun _ => Cli.wtriple_pure fun s log h => ⟨hkept.sent (by decide) h, nofun⟩) fun _ => ?_
    refine Cli.wtriple_bind (Cli.wtriple_liftExcept_eq fun _ s log _ h =>
      .inr ⟨c, hkept.sent (by decide) h⟩) fun d => ?_
    refine (Cli.wtriple_liftExcept_eq fun _ s log _ h => .inr ⟨c, hkept.sent (by decide) h.2⟩).post
      fun v s log ⟨hfind, hdec, hsp⟩ => ⟨hkept.sent (by decide) hsp, fun cl hcl => ?_⟩
    obtain ⟨s₀, log₀, req, ⟨⟨c', hc', hid⟩, -⟩, hresp, -, hm, hp, -⟩ := hsp
    obtain ⟨r', hr', -, hjson⟩ := hreg.lists s₀ req hm hp
    rw [hresp] at hr'
    cases hr'
    have hfound := findClient_toString (hreg.nodup s₀) hc' (hid ▸ hc)
    rw [hid] at hfound
    simp only [Response.decode, hjson] at hdec
    cases hdec
    rw [hfound, hcl] at hfind
    cases hfind
    rw [ClientRecord.get_id, hid]

theorem addNumber_registered (c : ClientRecord) (carrier : String) (acc : List JVal × Tally)
    (num : String) :
    Cli.WTriple (PostsTo clients L₀ c) (fun _ => PostsTo clients L₀ c)
      (fun _ => QuickInv clients L₀) (addNumber gw (.num c.id) carrier acc num) :=
  Cli.wtriple_ite (fun _ => Cli.wtriple_pure fun _ _ h => h) fun _ =>
    Cli.wtriple_bind (send_wtriple (fun _ _ _ _ h => .inr ⟨c, h⟩) gw _ _ _) fun _ =>
      Cli.wtriple_pure fun _ _ ⟨s₀, log₀, req, h, hresp, hlog, _, hp, _⟩ => by
        have := h.snoc hreg (.inr hp)
        rwa [hresp, ← hlog] at this

/-- **The numbers go to `c`.** Adding numbers to `str(c.id)` posts only to `c`'s numbers path. -/
theorem addNumbersToClient_registered {c : ClientRecord} (hc : 0 ≤ c.id)
    (numbers : List String) (carrier : String) (skipExisting : Bool) :
    Cli.WTriple (PostsTo clients L₀ c) (fun _ => PostsTo clients L₀ c)
      (fun _ => QuickInv clients L₀)
      (addNumbersToClient gw (toString c.id) numbers carrier skipExisting) := by
  refine Cli.wtriple_bind (getClientByIdentifier_registered hreg hc) fun v => ?_
  cases v with
  | none => exact Cli.wtriple_pure fun _ _ h => h.1
  | some cl =>
    refine Cli.wtriple_ite (fun _ => Cli.wtriple_pure fun _ _ h => h.1) fun _ => ?_
    refine Cli.wtriple_bind (Cli.wtriple_liftExcept_eq fun _ _ _ _ h => .inr ⟨c, h.1⟩)
      fun x => ?_
    refine (Cli.WTriple.assume fun (hx : x = .num c.id) => ?_).pre fun _ _ ⟨hget, hpost, hid⟩ =>
      ⟨(Except.ok.inj ((hid cl rfl).symm.trans hget)).symm, hpost⟩
    subst hx
    have hloop : ∀ existing, Cli.WTriple (PostsTo clients L₀ c) (fun _ => PostsTo clients L₀ c)
        (fun _ => QuickInv clients L₀) (addNumbersLoop gw (.num c.id) carrier existing numbers) :=
      fun _ => Cli.wtriple_foldlM (fun acc num _ => addNumber_registered hreg c carrier acc num) _
    exact Cli.wtriple_bind (Q := fun _ => PostsTo clients L₀ c)
      (Cli.wtriple_ite (fun _ => Cli.wtriple_liftExcept fun _ _ _ _ h => .inr ⟨c, h⟩)
        fun _ => Cli.wtriple_pure fun _ _ h => h) fun existing =>
      Cli.wtriple_bind (hloop existing) fun _ => Cli.wtriple_pure fun _ _ h => h

/-- **A created client is registered.** From a log with no numbers posts since `L₀`, a creation
that returns `u` leaves a client `c` with `u = str(c.id)` of which `PostsTo` holds. -/
theorem createClientInteractive_registered :
    Cli.WTriple (fun _ => NoNumberPosts L₀)
      (fun created s log => NoNumberPosts L₀ log ∧ ∀ u, created = some u →
        ∃ c : ClientRecord, (u = toString c.id ∧ 0 ≤ c.id) ∧ PostsTo clients L₀ c s log)
      (fun _ => QuickInv clients L₀) (createClientInteractive gw) := by
  refine (createClientInteractive_spec gw _ _ (NoNumberPosts.kept.calls (by decide))
    fun _ _ _ h => .inl h).post fun _ _ _ h => ⟨h.1, fun u hu => ?_⟩
  obtain ⟨s₀, log₀, req, r, d, x, ⟨new, rfl, hnew⟩, hresp, rfl, hm, hp, h2xx, hdec, hx, rfl⟩ :=
    h.2 u hu
  obtain ⟨c, hc, hnn, hjson⟩ := hreg.creates s₀ req r hm hp (by rw [hresp]) h2xx
  rw [hresp] at hc
  simp only [Response.decode, hjson] at hdec
  cases hdec
  rw [ClientRecord.get_id_toStr] at hx
  cases hx
  refine ⟨c, ⟨rfl, hnn⟩, ⟨c, hc, rfl⟩, new ++ [(req, .response r)], List.append_assoc _ _ _,
    ⟨req, r, by simp, hm, hp, hjson⟩, fun e he y hy => ?_⟩
  rcases List.mem_append.mp he with he | he
  · exact absurd hy (hnew e he y)
  · rw [List.mem_singleton.mp he] at hy
    exact absurd hy (ne_numbersPath_of_fixed (hp ▸ by decide) y)

theorem quickFlow_registered (last : Option String) :
    Cli.WTriple (fun _ => NoNumberPosts L₀) (fun _ => QuickInv clients L₀)
      (fun _ => QuickInv clients L₀) (quickFlow gw last) := by
  refine Cli.wtriple_bind (createClientInteractive_registered hreg) fun created => ?_
  cases created with
  | none => exact Cli.wtriple_pure fun _ _ h => .inl h.1
  | some username =>
    refine Cli.wtriple_ite (fun _ => Cli.wtriple_pure fun _ _ h => .inl h.1) fun _ => ?_
    refine (Cli.WTriple.exists_pre fun c => Cli.WTriple.assume (P := PostsTo clients L₀ c)
      fun (hc : username = toString c.id ∧ 0 ≤ c.id) => ?_).pre fun _ _ h => h.2 _ rfl
    obtain ⟨rfl, hnn⟩ := hc
    have hkept : KeptByFixed gw (PostsTo clients L₀ c) := PostsTo.kept hreg c
    have hin : Cli.WTriple (PostsTo clients L₀ c) (fun _ => PostsTo clients L₀ c)
        (fun _ => QuickInv clients L₀) (input : Cli σ String) :=
      input_wtriple fun _ _ _ _ h => .inr ⟨c, h⟩
    refine Cli.wtriple_bind
      (listCarriers_within gw _ _ (hkept.calls (by decide)) fun _ _ _ h => .inr ⟨c, h⟩) fun _ => ?_
    refine Cli.wtriple_bind (carrierOrDefault_wtriple fun _ _ _ _ h => .inr ⟨c, h⟩) fun _ =>
      Cli.wtriple_bind hin fun _ => Cli.wtriple_bind (Q := fun _ => PostsTo clients L₀ c) ?_
        fun _ => ?_
    · exact Cli.wtriple_ite (fun _ => Cli.wtriple_pure fun _ _ h => h) fun _ =>
        Cli.wtriple_bind (addNumbersToClient_registered hreg hnn _ _ _) fun _ =>
          Cli.wtriple_pure fun _ _ h => h
    · exact Cli.wtriple_bind hin fun _ => Cli.wtriple_bind (Q := fun _ => PostsTo clients L₀ c)
        (Cli.wtriple_ite (fun _ =>
          reloadAll_within gw _ _ (hkept.calls (by decide)) fun _ _ _ h => .inr ⟨c, h⟩)
          fun _ => Cli.wtriple_pure fun _ _ h => h) fun _ =>
        Cli.wtriple_pure fun _ _ h => .inr ⟨c, h⟩

/-- **Option 5 remembers the client it created.** From a log with no numbers posts since `L₀`, a
round of option 5 from no remembered client that leaves `u` remembered has created a client `c`
with `u = str(c.id)`, of which `PostsTo` holds; `u` is not empty. -/
theorem menuAction_five_registered {w w₁ : World σ} {u : String} (hw : NoNumberPosts L₀ w.log)
    (h5 : menuAction gw none "5" w = .ok (some (some u)) w₁) :
    ∃ c : ClientRecord, (u = toString c.id ∧ 0 ≤ c.id) ∧ u.isEmpty = false ∧
      PostsTo clients L₀ c w₁.server w₁.log := by
  have hstart := createClientInteractive_registered hreg w hw
  simp only [menuAction, Cli.bind_apply, Cli.pure_apply] at h5
  cases hc : createClientInteractive gw w with
  | error e w' => rw [hc] at h5; cases h5
  | ok created w' =>
    rw [hc] at h5 hstart
    simp only [EStateM.Result.ok.injEq, Option.some.injEq, Option.or_none, Option.filter_eq_some,
      Option.mem_def, Bool.not_eq_true'] at h5
    obtain ⟨⟨rfl, hne⟩, rfl⟩ := h5
    obtain ⟨c, hc, hpost⟩ := hstart.2 _ rfl
    exact ⟨c, hc, hne, hpost⟩

/-- **Option 9 on `str(c.id)` adds to `c`.** A round of option 9 that reads the identifier
`str(c.id)`, from a state of which `PostsTo c` holds, keeps `QuickInv`. -/
theorem addNumbersOption_registered {c : ClientRecord} (hc : 0 ≤ c.id) {last : Option String}
    {w w' : World σ} (hid : identifierOr last w = .ok (some (toString c.id)) w')
    (hw : PostsTo clients L₀ c w.server w.log) :
    QuickInv clients L₀ (Cli.world (addNumbersOption gw last w)).server
      (Cli.world (addNumbersOption gw last w)).log := by
  have hkept : KeptByFixed gw (PostsTo clients L₀ c) := PostsTo.kept hreg c
  have hw' : PostsTo clients L₀ c w'.server w'.log := by
    have h := identifierOr_wtriple (E := fun _ => QuickInv clients L₀)
      (fun _ _ _ _ h => .inr ⟨c, h⟩) last w hw
    rwa [hid] at h
  rw [addNumbersOption, Cli.bind_apply, hid]
  dsimp only
  refine Cli.WTriple.world ?_ hw'
  refine Cli.wtriple_bind
    (listCarriers_within gw _ _ (hkept.calls (by decide)) fun _ _ _ h => .inr ⟨c, h⟩) fun _ => ?_
  refine Cli.wtriple_bind (Cli.wtriple_liftExcept fun _ _ _ _ h => .inr ⟨c, h⟩) fun _ => ?_
  refine Cli.wtriple_bind (carrierOrDefault_wtriple fun _ _ _ _ h => .inr ⟨c, h⟩) fun _ => ?_
  refine Cli.wtriple_bind (readAllLines_wtriple fun _ _ _ _ h => .inr ⟨c, h⟩) fun _ => ?_
  exact Cli.wtriple_ite (fun _ => Cli.wtriple_pure fun _ _ h => .inr ⟨c, h⟩) fun _ =>
    Cli.wtriple_bind (addNumbersToClient_registered hreg hc _ _ _) fun _ =>
      Cli.wtriple_pure fun _ _ h => .inr ⟨c, h⟩

end Registered

/-- **The quick flow adds its numbers to the client it creates.** Against a gateway that registers
the clients it creates, whatever the operator types, every request the quick flow (option `q`)
sends to a numbers path goes to the numbers path of the client whose record answered the flow's
own `POST /clients`. -/
theorem quickFlow_adds_to_created {gw : Gateway σ} {clients : σ → List ClientRecord}
    (hreg : RegistersClients gw clients) (last : Option String) (w : World σ) :
    ∃ new, (Cli.world (quickFlow gw last w)).log = w.log ++ new ∧
      ∀ e ∈ new, ∀ x, e.1.path = numbersPath x →
        ∃ req r, ∃ c : ClientRecord, (req, .response r) ∈ new ∧ req.method = .post ∧
          req.path = "/clients" ∧ r.json = some c.toJVal ∧ e.1.path = numbersPath (.num c.id) := by
  have hflow : Cli.WTriple (fun _ => NoNumberPosts w.log) (fun _ => QuickInv clients w.log)
      (fun _ => QuickInv clients w.log) (quickFlow gw last) := quickFlow_registered hreg last
  exact (hflow.world (show NoNumberPosts w.log w.log from ⟨[], by simp, by simp⟩)).adds_to_created

/-! ## A gateway that registers its clients -/

/-- The client `registeringGateway` creates and lists. -/
def createdClient : ClientRecord :=
  ⟨[("id", .num 2), ("username", .str "c")], 2, "c", rfl, rfl, lt_pow_maxStrDigits (by decide)⟩

/-- A gateway that lists `createdClient` at `GET /clients`, answers every other request to
`/clients` with its record and status 201, and every other request with 201 and `{}`. -/
def registeringGateway : Gateway Unit where
  respond s req :=
    if req.path = "/clients" then
      if req.method = .get then (.response ⟨200, "", some (.arr [createdClient.toJVal])⟩, s)
      else (.response ⟨201, "", some createdClient.toJVal⟩, s)
    else (.response ⟨201, "", some (.obj [])⟩, s)

theorem registeringGateway_registers :
    RegistersClients registeringGateway fun _ => [createdClient] where
  lists _ _ hm hp := ⟨⟨200, "", some (.arr [createdClient.toJVal])⟩,
    by simp only [registeringGateway, if_pos hp, if_pos hm], rfl, rfl⟩
  nodup _ := List.nodup_singleton _
  keepsIds _ _ c hc := ⟨c, hc, rfl⟩
  creates _ _ _ hm hp hr _ := by
    simp only [registeringGateway, hp, hm, if_true, reduceCtorEq, if_false, Outcome.response.injEq]
      at hr
    exact ⟨createdClient, List.mem_singleton_self _, by decide, by rw [← hr]⟩

theorem quickFlow_adds_to_created_registering :
    let w : World Unit := ⟨⟨none, some "key"⟩, [.line "c", .line "pw", .line "", .line "2",
      .line "", .line "", .line "", .line "12025550101", .line "n"], [], (), []⟩
    RegistersClients registeringGateway (fun _ => [createdClient]) ∧
    ∃ new, (Cli.world (quickFlow registeringGateway none w)).log = w.log ++ new ∧
      ∀ e ∈ new, ∀ x, e.1.path = numbersPath x →
        ∃ req r, ∃ c : ClientRecord, (req, .response r) ∈ new ∧ req.method = .post ∧
          req.path = "/clients" ∧ r.json = some c.toJVal ∧ e.1.path = numbersPath (.num c.id) :=
  ⟨registeringGateway_registers, quickFlow_adds_to_created registeringGateway_registers none _⟩

/-! ## The remembered client -/

/-- **A blank identifier at option 9 names the client option 5 created.** Against a gateway that
registers the clients it creates, in a session that remembers no client yet: a round of option 5
that leaves `u` as `last_client`, then a round of option 9 whose identifier is left blank. Every
request to a numbers path since the first round goes to the numbers path of the client whose
record answered a `POST /clients` among them. -/
theorem menuAction_blank_adds_to_created {gw : Gateway σ} {clients : σ → List ClientRecord}
    (hreg : RegistersClients gw clients) {w w₁ : World σ} {u : String}
    (h5 : menuAction gw none "5" w = .ok (some (some u)) w₁) {t : String} {rest : List Key}
    (hblank : w₁.keys = .line t :: rest) (ht : Py.strip t = "") :
    ∃ new, (Cli.world (menuAction gw (some u) "9" w₁)).log = w.log ++ new ∧
      ∀ e ∈ new, ∀ x, e.1.path = numbersPath x →
        ∃ req r, ∃ c : ClientRecord, (req, .response r) ∈ new ∧ req.method = .post ∧
          req.path = "/clients" ∧ r.json = some c.toJVal ∧ e.1.path = numbersPath (.num c.id) := by
  -- round 5 created `u`, and round 9 reads the blank identifier and goes on with it
  obtain ⟨c, ⟨rfl, hnn⟩, hne, hpost⟩ :=
    menuAction_five_registered hreg (show NoNumberPosts w.log w.log from ⟨[], by simp, by simp⟩) h5
  have hid : identifierOr (some (toString c.id)) w₁ =
      .ok (some (toString c.id)) { w₁ with keys := rest } := by
    have hblank' : ("" : String).isEmpty = true := rfl
    simp [identifierOr, input_line hblank, ht, Option.filter, hne, hblank']
  have h9 : Cli.world (menuAction gw (some (toString c.id)) "9" w₁) =
      Cli.world (addNumbersOption gw (some (toString c.id)) w₁) := by
    simp only [menuAction, Cli.bind_apply]
    cases addNumbersOption gw (some (toString c.id)) w₁ <;> rfl
  rw [h9]
  exact (addNumbersOption_registered hreg hnn hid hpost).adds_to_created

theorem menuAction_blank_adds_to_created_registering :
    let w : World Unit := ⟨⟨none, some "key"⟩, [.line "c", .line "pw", .line "", .line "2",
      .line "", .line "", .line " ", .line "", .line "12025550101"], [], (), []⟩
    let w₁ := Cli.world (menuAction registeringGateway none "5" w)
    RegistersClients registeringGateway (fun _ => [createdClient]) ∧
    menuAction registeringGateway none "5" w = .ok (some (some "2")) w₁ ∧
    w₁.keys = [.line " ", .line "", .line "12025550101"] ∧ Py.strip " " = "" ∧
    ∃ new, (Cli.world (menuAction registeringGateway (some "2") "9" w₁)).log = w.log ++ new ∧
      ∀ e ∈ new, ∀ x, e.1.path = numbersPath x →
        ∃ req r, ∃ c : ClientRecord, (req, .response r) ∈ new ∧ req.method = .post ∧
          req.path = "/clients" ∧ r.json = some c.toJVal ∧ e.1.path = numbersPath (.num c.id) :=
  ⟨registeringGateway_registers, rfl, rfl, by decide,
    menuAction_blank_adds_to_created registeringGateway_registers rfl rfl (by decide)⟩

end MsggwManager

import MsggwManager.Numbers.Add
import Mathlib.Data.Finset.Card

/-!
# Whole batches

Three results about the loop of `add_numbers_to_client`, each an induction over the batch from the
one-step lemmas `addNumber_ok` and `addNumber_error`:

* `addNumbersLoop_total`: every number is counted once, on exactly one of the body's paths,
  whatever the gateway answers; the loop only raises where a post cannot go out.
* `addNumbersLoop_setStore`: against a gateway that keeps the client's numbers as a set, the set
  ends as the old set with the batch added, and the counters say how many were new.
* `addNumbersLoop_fresh`: whatever the gateway answers, the loop never posts a number of the
  exclusion list, nor one an earlier post of the same call got a 2xx for.

Against a gateway that lists the clients, `add_numbers_to_client` is the lookup's `GET /clients`
and then the loop over the client the lookup names, from the exclusion list read off its record
(`addNumbersToClient_listed`). The last two results hold of the whole call from there
(`addNumbersToClient_setStore`, `addNumbersToClient_fresh`), and the lookup's result says where the
posts go (`addNumbersToClient_posts_to_expected`).
-/

namespace MsggwManager

variable {σ : Type} {gw : Gateway σ} {clientId : JVal} {carrier : String}

/-! ## Every number is counted once -/

theorem foldlM_addNumber_total {nums : List String} {acc acc' : List JVal × Tally}
    {w w' : World σ} (h : nums.foldlM (addNumber gw clientId carrier) acc w = .ok acc' w') :
    acc'.2.total = acc.2.total + nums.length := by
  induction nums generalizing acc w with
  | nil => rw [List.foldlM_nil] at h; cases h; rfl
  | cons num rest ih =>
    obtain ⟨acc₁, w₁, h₁, h₂⟩ := Cli.foldlM_cons_ok h
    rw [ih h₂, addNumber_total h₁, List.length_cons]
    omega

theorem foldlM_addNumber_error {nums : List String} {acc : List JVal × Tally} {e : Exc}
    {w w' : World σ} (h : nums.foldlM (addNumber gw clientId carrier) acc w = .error e w') :
    e.IsSendStop w.env := by
  induction nums generalizing acc w with
  | nil => rw [List.foldlM_nil] at h; cases h
  | cons num rest ih =>
    rcases Cli.foldlM_cons_error h with h₁ | ⟨acc₁, w₁, h₁, h₂⟩
    · exact (addNumber_error h₁).2
    · rw [← addNumber_env h₁]
      exact ih h₂

/-- A gateway that lists one client, id 2, which has the number `12025550100`, and answers 201 to
every other request. -/
def acceptingGateway : Gateway Unit where
  respond s req :=
    if req.method = .get then
      (.response ⟨200, "", some (.arr [.obj [("id", .num 2), ("username", .str "b"),
        ("numbers", .arr [.obj [("number", .str "12025550100")]])]])⟩, s)
    else (.response ⟨201, "", some (.obj [])⟩, s)

/-- The client `acceptingGateway` lists. -/
def acceptingClient : ClientRecord :=
  ⟨[("id", .num 2), ("username", .str "b"),
    ("numbers", .arr [.obj [("number", .str "12025550100")]])], 2, "b", rfl, rfl,
    lt_pow_maxStrDigits (by decide)⟩

theorem acceptingGateway_lists : ListsClients acceptingGateway () [acceptingClient] :=
  fun _ hm _ => ⟨_, by simp only [acceptingGateway, if_pos hm]; rfl, rfl, rfl⟩

/-- The gateway keeps the numbers of client `clientId` as a set, read off its state by
`numbers`: a `POST /clients/{id}/numbers` of a number outside the set answers 2xx and adds it;
of a number in the set, it answers non-2xx with an error text containing `already exists` and
keeps the set. -/
structure SetStore (gw : Gateway σ) (clientId : JVal) (numbers : σ → Finset String) : Prop where
  post_new : ∀ s req num carrier, req.method = .post → req.path = numbersPath clientId →
    req.payload = some (numberPayload num carrier) → num ∉ numbers s →
    ∃ r, (gw.respond s req).1 = .response r ∧ is2xx r.status ∧
      numbers (gw.respond s req).2 = insert num (numbers s)
  post_dup : ∀ s req num carrier, req.method = .post → req.path = numbersPath clientId →
    req.payload = some (numberPayload num carrier) → num ∈ numbers s →
    ∃ r, (gw.respond s req).1 = .response r ∧ is2xx r.status = false ∧
      Py.contains (errorText r) "already exists" ∧ numbers (gw.respond s req).2 = numbers s

theorem alreadyExists_of_contains {r : Response} (h : Py.contains (errorText r) "already exists") :
    alreadyExists r :=
  Py.contains_lower (by decide) h

theorem card_insert_sdiff {a : String} {R N : Finset String} (ha : a ∉ N) :
    (insert a R \ N).card = (R \ insert a N).card + 1 := by
  rw [Finset.insert_sdiff_of_not_mem _ ha, Finset.sdiff_insert,
    ← Finset.card_erase_add_one (Finset.mem_insert_self a _), Finset.erase_insert_eq_erase]

section SetStore

variable {numbers : σ → Finset String} (hstore : SetStore gw clientId numbers)
include hstore

theorem addNumber_setStore {acc acc' : List JVal × Tally} {num : String} {w w' : World σ}
    (hex : ∀ n, Py.inList acc.1 n → n ∈ numbers w.server)
    (h : addNumber gw clientId carrier acc num w = .ok acc' w') :
    (∀ n, Py.inList acc'.1 n → n ∈ numbers w'.server) ∧
    numbers w'.server = insert num (numbers w.server) ∧
    acc'.2.added = acc.2.added + (if num ∈ numbers w.server then 0 else 1) ∧
    acc'.2.added + acc'.2.skipped = acc.2.added + acc.2.skipped + 1 ∧
    acc'.2.failed = acc.2.failed := by
  rcases addNumber_ok h with ⟨hin, rfl, rfl⟩ | ⟨-, auth, rest, rfl, rfl⟩
  · have hmem := hex num hin
    exact ⟨hex, (Finset.insert_eq_of_mem hmem).symm, by simp [hmem], by dsimp only; omega, rfl⟩
  · by_cases hmem : num ∈ numbers w.server
    · obtain ⟨r, hr, h2xx, htext, hset⟩ := hstore.post_dup w.server
        ⟨.post, baseUrl w.env, numbersPath clientId, auth, some (numberPayload num carrier)⟩
        num carrier rfl rfl rfl hmem
      dsimp only
      rw [hr, tallyOutcome_alreadyExists _ _ h2xx (alreadyExists_of_contains htext), hset,
        Finset.insert_eq_of_mem hmem, if_pos hmem]
      exact ⟨hex, rfl, rfl, by dsimp only; omega, rfl⟩
    · obtain ⟨r, hr, h2xx, hset⟩ := hstore.post_new w.server
        ⟨.post, baseUrl w.env, numbersPath clientId, auth, some (numberPayload num carrier)⟩
        num carrier rfl rfl rfl hmem
      dsimp only
      rw [hr, tallyOutcome_accepted _ _ h2xx, hset, if_neg hmem]
      refine ⟨fun n hn => ?_, rfl, rfl, by dsimp only; omega, rfl⟩
      rw [Py.inList_append_single, Bool.or_eq_true, beq_iff_eq] at hn
      rcases hn with hn | rfl
      · exact Finset.mem_insert_of_mem (hex n hn)
      · exact Finset.mem_insert_self _ _

theorem foldlM_addNumber_setStore {nums : List String} {acc acc' : List JVal × Tally}
    {w w' : World σ} (hex : ∀ n, Py.inList acc.1 n → n ∈ numbers w.server)
    (h : nums.foldlM (addNumber gw clientId carrier) acc w = .ok acc' w') :
    numbers w'.server = numbers w.server ∪ nums.toFinset ∧
    acc'.2.added = acc.2.added + (nums.toFinset \ numbers w.server).card ∧
    acc'.2.added + acc'.2.skipped = acc.2.added + acc.2.skipped + nums.length ∧
    acc'.2.failed = acc.2.failed := by
  induction nums generalizing acc w with
  | nil => rw [List.foldlM_nil] at h; cases h; simp
  | cons num rest ih =>
    obtain ⟨acc₁, w₁, h₁, h₂⟩ := Cli.foldlM_cons_ok h
    obtain ⟨hex₁, hset₁, hadd₁, hsum₁, hfail₁⟩ := addNumber_setStore hstore hex h₁
    obtain ⟨hset, hadd, hsum, hfail⟩ := ih hex₁ h₂
    refine ⟨by rw [hset, hset₁, List.toFinset_cons, Finset.insert_union, Finset.union_insert],
      ?_, by rw [hsum, hsum₁, List.length_cons]; omega, hfail.trans hfail₁⟩
    rw [hadd, hadd₁, hset₁, List.toFinset_cons]
    by_cases hmem : num ∈ numbers w.server
    · simp [hmem, Finset.insert_eq_of_mem hmem, Finset.insert_sdiff_of_mem _ hmem]
    · rw [if_neg hmem, card_insert_sdiff hmem]
      omega

theorem addNumbersLoop_setStore {existing : List JVal} {nums : List String} {w w' : World σ}
    {acc : List JVal × Tally} (hex : ∀ n, Py.inList existing n → n ∈ numbers w.server)
    (h : addNumbersLoop gw clientId carrier existing nums w = .ok acc w') :
    numbers w'.server = numbers w.server ∪ nums.toFinset ∧
      acc.2.added = (nums.toFinset \ numbers w.server).card ∧
      acc.2.skipped = nums.length - acc.2.added ∧ acc.2.failed = 0 := by
  obtain ⟨hset, hadd, hsum, hfail⟩ := foldlM_addNumber_setStore hstore hex h
  simp only [Nat.zero_add] at hadd hsum hfail
  exact ⟨hset, hadd, by omega, hfail⟩

end SetStore

/-- A gateway that keeps client `clientId`'s numbers in its state and answers a second post of a
number with `409 {"error": "number already exists"}`. -/
def setStoreGateway (clientId : JVal) : Gateway (Finset String) where
  respond s req :=
    match req.number? with
    | some num =>
      if req.method = .post ∧ req.path = numbersPath clientId then
        if num ∈ s then
          (.response ⟨409, "", some (.obj [("error", .str "number already exists")])⟩, s)
        else (.response ⟨201, "", some (.obj [])⟩, insert num s)
      else (.networkError "unknown route", s)
    | none => (.networkError "unknown route", s)

theorem setStoreGateway_setStore (clientId : JVal) :
    SetStore (setStoreGateway clientId) clientId id := by
  constructor
  · intro s req num carrier hm hp hpay hnew
    rw [id] at hnew
    refine ⟨⟨201, "", some (.obj [])⟩, ?_, ?_, ?_⟩ <;>
      simp [setStoreGateway, Request.number?_of_payload hpay, hm, hp, hnew, is2xx]
  · intro s req num carrier hm hp hpay hdup
    rw [id] at hdup
    refine ⟨⟨409, "", some (.obj [("error", .str "number already exists")])⟩, ?_, ?_, by decide,
      ?_⟩ <;> simp [setStoreGateway, Request.number?_of_payload hpay, hm, hp, hdup, is2xx]

theorem setStoreGateway_keeps (clientId : JVal) {req : Request} (hm : req.method ≠ .post)
    (s : Finset String) : ((setStoreGateway clientId).respond s req).2 = s := by
  unfold setStoreGateway
  dsimp only
  split
  · rw [if_neg fun h => hm h.1]
  · rfl

/-- `gw`, answering `GET /clients` with the records `cs` and leaving its state alone there. -/
def Gateway.listing (gw : Gateway σ) (cs : List ClientRecord) : Gateway σ where
  respond s req :=
    if req.method = .get ∧ req.path = "/clients" then
      (.response ⟨200, "", some (.arr (cs.map ClientRecord.toJVal))⟩, s)
    else gw.respond s req

theorem Gateway.listing_lists (gw : Gateway σ) (cs : List ClientRecord) (s : σ) :
    ListsClients (gw.listing cs) s cs := fun _ hm hp =>
  ⟨⟨200, "", some (.arr (cs.map ClientRecord.toJVal))⟩,
    by simp only [Gateway.listing, hm, hp, and_self, if_true], rfl, rfl⟩

theorem SetStore.listing {numbers : σ → Finset String} (hstore : SetStore gw clientId numbers)
    (cs : List ClientRecord) : SetStore (gw.listing cs) clientId numbers := by
  have hpost : ∀ s (req : Request), req.method = .post → (gw.listing cs).respond s req =
      gw.respond s req := fun s req hm => by simp [Gateway.listing, hm]
  constructor
  · intro s req num carrier hm hp hpay hnew
    rw [hpost s req hm]
    exact hstore.post_new s req num carrier hm hp hpay hnew
  · intro s req num carrier hm hp hpay hdup
    rw [hpost s req hm]
    exact hstore.post_dup s req num carrier hm hp hpay hdup

/-! ## No number is posted twice -/

/-- `req` is `POST /clients/{id}/numbers` of `num` with `carrier`. -/
def IsNumberPost (clientId : JVal) (carrier num : String) (req : Request) : Prop :=
  req.method = .post ∧ req.path = numbersPath clientId ∧
    req.payload = some (numberPayload num carrier)

/-- The numbers of the posts in `log` that got a 2xx, in order. -/
def acceptedNumbers (log : List (Request × Outcome)) : List String :=
  log.filterMap fun e => if e.2.accepted then e.1.number? else none

/-- The posts `new` of one call, from the exclusion list `existing` at its start: each posts a
number that is not on the list as it stands then, and a 2xx puts that number on the list. -/
def FreshPosts (clientId : JVal) (carrier : String) : List JVal → List (Request × Outcome) → Prop
  | _, [] => True
  | existing, (req, o) :: rest => ∃ num, IsNumberPost clientId carrier num req ∧
      Py.inList existing num = false ∧
      FreshPosts clientId carrier (if o.accepted then existing ++ [.str num] else existing) rest

theorem IsNumberPost.number_eq {req : Request} {num num' : String}
    (h : IsNumberPost clientId carrier num req) (h' : IsNumberPost clientId carrier num' req) :
    num = num' := by
  have := h.2.2.symm.trans h'.2.2
  simpa [numberPayload] using this

theorem acceptedNumbers_cons {req : Request} {num : String} (o : Outcome)
    (rest : List (Request × Outcome)) (h : IsNumberPost clientId carrier num req) :
    acceptedNumbers ((req, o) :: rest) =
      (if o.accepted then [num] else []) ++ acceptedNumbers rest := by
  simp only [acceptedNumbers, List.filterMap_cons, Request.number?_of_payload h.2.2]
  split_ifs <;> rfl

theorem foldlM_addNumber_log (nums : List String) (acc : List JVal × Tally) (w : World σ) :
    ∃ new, (Cli.world (nums.foldlM (addNumber gw clientId carrier) acc w)).log = w.log ++ new ∧
      FreshPosts clientId carrier acc.1 new ∧
      (∀ e ∈ new, ∃ num ∈ nums, IsNumberPost clientId carrier num e.1) ∧
      ∀ acc' w', nums.foldlM (addNumber gw clientId carrier) acc w = .ok acc' w' →
        acc'.1 = acc.1 ++ (acceptedNumbers new).map .str ∧
        acc'.2.added = acc.2.added + (acceptedNumbers new).length := by
  induction nums generalizing acc w with
  | nil =>
    refine ⟨[], by simp, trivial, by simp, fun acc' w' h => ?_⟩
    rw [List.foldlM_nil] at h
    cases h
    simp [acceptedNumbers]
  | cons num rest ih =>
    rw [Cli.world_foldlM_cons]
    cases h₁ : addNumber gw clientId carrier acc num w with
    | error e w₁ =>
      refine ⟨[], by rw [(addNumber_error h₁).1]; simp, trivial, by simp, fun acc' w' h => ?_⟩
      rw [List.foldlM_cons, Cli.bind_apply, h₁] at h
      cases h
    | ok acc₁ w₁ =>
      obtain ⟨new, hlog, hfresh, hmem, hret⟩ := ih acc₁ w₁
      have hfold : ∀ acc' w', (num :: rest).foldlM (addNumber gw clientId carrier) acc w =
          .ok acc' w' → rest.foldlM (addNumber gw clientId carrier) acc₁ w₁ = .ok acc' w' := by
        intro acc' w' h
        rwa [List.foldlM_cons, Cli.bind_apply, h₁] at h
      have hmem' : ∀ e ∈ new, ∃ n ∈ num :: rest, IsNumberPost clientId carrier n e.1 :=
        fun e he => (hmem e he).imp fun n ⟨hn, hp⟩ => ⟨List.mem_cons_of_mem _ hn, hp⟩
      rcases addNumber_ok h₁ with ⟨-, rfl, rfl⟩ | ⟨hin, auth, rest', hacc, hw⟩
      · exact ⟨new, hlog, hfresh, hmem', fun acc' w' h => hret acc' w' (hfold acc' w' h)⟩
      · set req : Request :=
          ⟨.post, baseUrl w.env, numbersPath clientId, auth, some (numberPayload num carrier)⟩
        have hpost : IsNumberPost clientId carrier num req := ⟨rfl, rfl, rfl⟩
        subst hacc hw
        refine ⟨(req, (gw.respond w.server req).1) :: new, by rw [hlog]; simp, ⟨num, hpost, hin,
          by rwa [tallyOutcome_fst] at hfresh⟩, ?_, fun acc' w' h => ?_⟩
        · intro e he
          rcases List.mem_cons.mp he with rfl | he
          · exact ⟨num, List.mem_cons_self _ _, hpost⟩
          · exact hmem' e he
        · obtain ⟨h1, h2⟩ := hret acc' w' (hfold acc' w' h)
          rw [tallyOutcome_fst] at h1
          rw [tallyOutcome_added] at h2
          rw [acceptedNumbers_cons _ _ hpost, h1, h2]
          split_ifs <;> simp [Nat.add_assoc, Nat.add_comm 1]

theorem freshPosts_not_listed {existing : List JVal} {new : List (Request × Outcome)}
    (h : FreshPosts clientId carrier existing new) :
    ∀ n ∈ acceptedNumbers new, Py.inList existing n = false := by
  induction new generalizing existing with
  | nil => simp [acceptedNumbers]
  | cons e rest ih =>
    obtain ⟨req, o⟩ := e
    obtain ⟨m, hpost, hm, hrest⟩ := h
    intro n hn
    rw [acceptedNumbers_cons o rest hpost] at hn
    have hlisted := ih hrest
    split_ifs at hn hlisted with hacc
    · rcases List.mem_cons.mp hn with rfl | hn
      · exact hm
      · have h := hlisted n hn
        rw [Py.inList_append_single, Bool.or_eq_false_iff] at h
        exact h.1
    · exact hlisted n (by simpa using hn)

theorem freshPosts_nodup {existing : List JVal} {new : List (Request × Outcome)}
    (h : FreshPosts clientId carrier existing new) : (acceptedNumbers new).Nodup := by
  induction new generalizing existing with
  | nil => simp [acceptedNumbers]
  | cons e rest ih =>
    obtain ⟨req, o⟩ := e
    obtain ⟨m, hpost, -, hrest⟩ := h
    rw [acceptedNumbers_cons o rest hpost]
    have hlisted := freshPosts_not_listed hrest
    split_ifs at hlisted ⊢ with hacc
    · refine List.nodup_cons.mpr ⟨fun hm => ?_, ih hrest⟩
      simpa [Py.inList_append_single] using hlisted m hm
    · exact ih hrest

theorem freshPosts_split {existing : List JVal} {new : List (Request × Outcome)}
    (h : FreshPosts clientId carrier existing new) :
    ∀ pre e post, new = pre ++ e :: post → ∃ num, IsNumberPost clientId carrier num e.1 ∧
      Py.inList existing num = false ∧
      ∀ e' ∈ pre, e'.2.accepted → ¬ IsNumberPost clientId carrier num e'.1 := by
  intro pre
  induction pre generalizing existing new with
  | nil =>
    rintro ⟨req, o⟩ post rfl
    obtain ⟨num, hpost, hnum, -⟩ := h
    exact ⟨num, hpost, hnum, by simp⟩
  | cons p pre ih =>
    rintro e post rfl
    obtain ⟨req, o⟩ := p
    obtain ⟨m, hpost, hm, hrest⟩ := h
    obtain ⟨num, hnum, hfree, hpre⟩ := ih hrest e post rfl
    have hfree' : Py.inList existing num = false ∧ (o.accepted → m ≠ num) := by
      split_ifs at hfree with hacc
      · simp only [Py.inList_append_single, Bool.or_eq_false_iff, beq_eq_false_iff_ne] at hfree
        exact ⟨hfree.1, fun _ => hfree.2⟩
      · exact ⟨hfree, fun h => absurd h hacc⟩
    refine ⟨num, hnum, hfree'.1, ?_⟩
    rintro e' he' hacc' hpost'
    rcases List.mem_cons.mp he' with rfl | he'
    · exact hfree'.2 hacc' (hpost.number_eq hpost')
    · exact hpre e' he' hacc' hpost'

theorem mem_acceptedNumbers {n : String} {new : List (Request × Outcome)}
    (h : n ∈ acceptedNumbers new) : ∃ e ∈ new, e.1.number? = some n := by
  obtain ⟨e, he, hn⟩ := List.mem_filterMap.mp h
  split_ifs at hn
  exact ⟨e, he, hn⟩

/-- **No number is posted twice, or from the exclusion list.** Whatever the gateway answers,
every request the loop sends posts a number of the batch that is not in the snapshot `S` (when
skipping) and that no earlier post of the call got a 2xx for. So the numbers answered 2xx are
distinct and, when skipping, outside `S`; and when the loop returns, `added` counts them and is at
most the number of the batch's distinct numbers outside the exclusion list it started from. -/
theorem addNumbersLoop_fresh (S : List JVal) (skip : Bool) (nums : List String) (w : World σ) :
    let existing := if skip then S else []
    let new := (Cli.world (addNumbersLoop gw clientId carrier existing nums w)).log.drop
      w.log.length
    (∀ pre e post, new = pre ++ e :: post → ∃ num ∈ nums, IsNumberPost clientId carrier num e.1 ∧
      (skip → Py.inList S num = false) ∧
      ∀ e' ∈ pre, e'.2.accepted → ¬ IsNumberPost clientId carrier num e'.1) ∧
    (acceptedNumbers new).Nodup ∧
    (skip → ∀ n ∈ acceptedNumbers new, Py.inList S n = false) ∧
    ∀ acc w', addNumbersLoop gw clientId carrier existing nums w = .ok acc w' →
      acc.2.added = (acceptedNumbers new).length ∧
      acc.2.added ≤ (nums.toFinset.filter fun n => !Py.inList existing n).card := by
  intro existing new
  obtain ⟨new', hlog, hfresh, hmem, hret⟩ :=
    @foldlM_addNumber_log σ gw clientId carrier nums (existing, ⟨0, 0, 0⟩) w
  have hnew : new = new' := by simp [new, addNumbersLoop, hlog]
  rw [hnew]
  have hS : skip → existing = S := fun h => by simp [existing, h]
  refine ⟨fun pre e post hsplit => ?_, freshPosts_nodup hfresh,
    fun hskip => hS hskip ▸ freshPosts_not_listed hfresh, fun acc w' h => ?_⟩
  · obtain ⟨num, hpost, hfree, hpre⟩ := freshPosts_split hfresh pre e post hsplit
    obtain ⟨m, hm, hpost'⟩ := hmem e (by simp [hsplit])
    exact ⟨num, hpost.number_eq hpost' ▸ hm, hpost, fun hskip => hS hskip ▸ hfree, hpre⟩
  · obtain ⟨-, hadded⟩ := hret acc w' h
    simp only [Nat.zero_add] at hadded
    refine ⟨hadded, hadded ▸ ?_⟩
    rw [← List.toFinset_card_of_nodup (freshPosts_nodup hfresh)]
    refine Finset.card_le_card fun n hn => ?_
    rw [List.mem_toFinset] at hn
    obtain ⟨e, he, hnum⟩ := mem_acceptedNumbers hn
    obtain ⟨m, hm, hpost⟩ := hmem e he
    rw [Request.number?_of_payload hpost.2.2, Option.some.injEq] at hnum
    subst hnum
    simp [hm, freshPosts_not_listed hfresh m hn]

/-- With `skip_existing` off the exclusion list starts empty, so a number the client already has is
posted, and a gateway that answers it with 2xx makes `added` exceed the count of the batch's numbers
outside the client's. -/
theorem addNumbersToClient_adds_listed :
    (∃ w', addNumbersToClient acceptingGateway "2" ["12025550100"] "telnyx" false
      ⟨⟨none, some "key"⟩, [], [], (), []⟩ = .ok (some ⟨1, 0, 0⟩) w') ∧
    existingNumbers (.obj [("id", .num 2), ("username", .str "b"),
      ("numbers", .arr [.obj [("number", .str "12025550100")]])]) = .ok [.str "12025550100"] ∧
    (["12025550100"].toFinset.filter fun n => !Py.inList [.str "12025550100"] n).card = 0 :=
  ⟨⟨_, rfl⟩, rfl, by decide⟩

/-! ## The whole call -/

theorem addNumbersToClient_listed {w : World σ} {cs : List ClientRecord}
    (hlist : ListsClients gw w.server cs) {identifier : String} {c : ClientRecord}
    (hc : expectedClient cs identifier = some c) (nums : List String) (skip : Bool) :
    (∃ e w', addNumbersToClient gw identifier nums carrier skip w = .error e w' ∧
      w'.log.length ≤ w.log.length + 1 ∧
      (e.IsSendStop w.env ∨ e = .valueError ∨ skip = true ∧ existingNumbers c.toJVal = .error e)) ∨
    ∃ req rest existing, req.method = .get ∧ req.path = "/clients" ∧
      (skip = true → existingNumbers c.toJVal = .ok existing) ∧ (skip = false → existing = []) ∧
      addNumbersToClient gw identifier nums carrier skip w =
        (addNumbersLoop gw (.num c.id) carrier existing nums >>= fun result => pure (some result.2))
          { w with keys := rest, server := (gw.respond w.server req).2,
                   log := w.log ++ [(req, (gw.respond w.server req).1)] } := by
  unfold addNumbersToClient
  rw [Cli.bind_apply]
  rcases getClientByIdentifier_listed hlist identifier with
    ⟨req, rest, hm, hp, h⟩ | ⟨e, w', h, hw', hstop⟩
  · rw [h]
    cases hf : findClient (.arr (cs.map ClientRecord.toJVal)) identifier with
    | error e => exact .inl ⟨e, _, rfl, by simp, .inr (.inl (findClient_records_error hf))⟩
    | ok v =>
      have hv := findClient_eq_expected hf
      rw [hc] at hv
      subst hv
      simp only [liftExcept, Cli.pure_apply, Option.map_some', ClientRecord.truthy_toJVal,
        ClientRecord.get_id, Bool.not_true, Bool.false_eq_true, if_false, Cli.bind_apply]
      cases skip
      · exact .inr ⟨req, rest, [], hm, hp, nofun, fun _ => rfl, rfl⟩
      · cases hex : existingNumbers c.toJVal with
        | error e => exact .inl ⟨e, _, rfl, by simp, .inr (.inr ⟨rfl, rfl⟩)⟩
        | ok S => exact .inr ⟨req, rest, S, hm, hp, fun _ => rfl, nofun, rfl⟩
  · rw [h, hw']
    exact .inl ⟨e, _, rfl, by simp, .inl hstop⟩

/-- **Against a set store, `add_numbers_to_client` adds the batch as a set.** Against a gateway
that lists `cs`, keeps the numbers of the client `c` the lookup names as a set, and changes no set
on a `GET`: for every snapshot `S` read off `c`'s record inside the client's set `T` (a stale one
included), every batch and either `skip_existing`, when the call returns, the client's set is
`T ∪ set(nums)`, `added = |set(nums) \ T|`, `skipped = len(nums) - added` and `failed = 0`. It
raises only where a request cannot go out, on the lookup's `ValueError`, or on a record whose
numbers it cannot read. -/
theorem addNumbersToClient_setStore {w : World σ} {cs : List ClientRecord}
    (hlist : ListsClients gw w.server cs) {identifier : String} {c : ClientRecord}
    (hc : expectedClient cs identifier = some c) {numbers : σ → Finset String}
    (hstore : SetStore gw (.num c.id) numbers)
    (hget : ∀ s req, req.method = .get → numbers (gw.respond s req).2 = numbers s)
    (hS : ∀ S, existingNumbers c.toJVal = .ok S → ∀ n, Py.inList S n → n ∈ numbers w.server)
    (nums : List String) (skip : Bool) :
    (∀ r w', addNumbersToClient gw identifier nums carrier skip w = .ok r w' →
      ∃ t, r = some t ∧ numbers w'.server = numbers w.server ∪ nums.toFinset ∧
        t.added = (nums.toFinset \ numbers w.server).card ∧
        t.skipped = nums.length - t.added ∧ t.failed = 0) ∧
    (∀ e w', addNumbersToClient gw identifier nums carrier skip w = .error e w' →
      e.IsSendStop w.env ∨ e = .valueError ∨
        skip = true ∧ existingNumbers c.toJVal = .error e) := by
  rcases addNumbersToClient_listed hlist hc nums skip with
    ⟨e, w', h, -, he⟩ | ⟨req, rest, existing, hm, -, hex₁, hex₂, h⟩
  · refine ⟨fun r w'' h' => ?_, fun e' w'' h' => ?_⟩ <;> rw [h] at h' <;> cases h'
    exact he
  have hex : ∀ n, Py.inList existing n →
      n ∈ numbers (gw.respond w.server req).2 := fun n hn => by
    rw [hget _ _ hm]
    cases skip
    · rw [hex₂ rfl] at hn; cases hn
    · exact hS existing (hex₁ rfl) n hn
  rw [h]
  refine ⟨fun r w' h' => ?_, fun e w' h' => .inl (foldlM_addNumber_error (Cli.bind_pure_error h') :)⟩
  obtain ⟨acc, hl, rfl⟩ := Cli.bind_pure_ok h'
  rw [← hget w.server req hm]
  exact ⟨acc.2, rfl, addNumbersLoop_setStore hstore hex hl⟩

/-- A set store holding `12025550100` and `12025550101` that lists `acceptingClient`, whose
record has only the first: the snapshot is stale. -/
theorem addNumbersToClient_setStore_stale :
    ListsClients ((setStoreGateway (.num 2)).listing [acceptingClient])
        {"12025550100", "12025550101"} [acceptingClient] ∧
      expectedClient [acceptingClient] "2" = some acceptingClient ∧
      (∀ S, existingNumbers acceptingClient.toJVal = .ok S → ∀ n, Py.inList S n →
        n ∈ id ({"12025550100", "12025550101"} : Finset String)) ∧
      (∃ w', addNumbersToClient ((setStoreGateway (.num 2)).listing [acceptingClient]) "2"
        ["12025550101", "12025550102", "12025550102"] "telnyx" true
        ⟨⟨none, some "key"⟩, [], [], {"12025550100", "12025550101"}, []⟩ =
          .ok (some ⟨1, 2, 0⟩) w') ∧
      ∀ r w', addNumbersToClient ((setStoreGateway (.num 2)).listing [acceptingClient]) "2"
        ["12025550101", "12025550102", "12025550102"] "telnyx" true
        ⟨⟨none, some "key"⟩, [], [], {"12025550100", "12025550101"}, []⟩ = .ok r w' →
        ∃ t, r = some t ∧ t.failed = 0 :=
  have hget : ∀ s (req : Request), req.method = .get →
      id (((setStoreGateway (.num 2)).listing [acceptingClient]).respond s req).2 = id s := by
    intro s req hm
    simp only [Gateway.listing, id]
    split_ifs
    · rfl
    · exact setStoreGateway_keeps _ (by rw [hm]; decide) s
  have hS : ∀ S, existingNumbers acceptingClient.toJVal = .ok S → ∀ n, Py.inList S n →
      n ∈ id ({"12025550100", "12025550101"} : Finset String) := by
    intro S hS n hn
    have hread : existingNumbers acceptingClient.toJVal = .ok [.str "12025550100"] := rfl
    rw [hread] at hS
    cases hS
    simp only [Py.inList, List.any_cons, List.any_nil, Bool.or_false, JVal.eqStr,
      beq_iff_eq] at hn
    simp [← hn]
  have hc : expectedClient [acceptingClient] "2" = some acceptingClient := rfl
  ⟨Gateway.listing_lists _ _ _, hc, hS, ⟨_, rfl⟩, fun r w' h =>
    ((addNumbersToClient_setStore (Gateway.listing_lists _ _ _) hc
      ((setStoreGateway_setStore _).listing _) hget hS
      ["12025550101", "12025550102", "12025550102"] true).1 r w' h).imp
        fun _ ⟨hr, _, _, _, hfail⟩ => ⟨hr, hfail⟩⟩

/-- **`add_numbers_to_client` posts no number twice, nor one of the snapshot.** Against a gateway
that lists `cs`, where the lookup names `c` and, when skipping, `c`'s record gives the snapshot
`S`: whatever the gateway answers to the posts, every request after the lookup's posts a number of
the batch to `c` that is not in `S` (when skipping) and that no earlier post of the call got a 2xx
for. So the numbers answered 2xx are distinct and, when skipping, outside `S`; and when the call
returns, `added` counts them and is at most the number of the batch's distinct numbers outside the
exclusion list. -/
theorem addNumbersToClient_fresh {w : World σ} {cs : List ClientRecord}
    (hlist : ListsClients gw w.server cs) {identifier : String} {c : ClientRecord}
    (hc : expectedClient cs identifier = some c) {S : List JVal} (skip : Bool)
    (hS : skip = true → existingNumbers c.toJVal = .ok S) (nums : List String) :
    let new := (Cli.world (addNumbersToClient gw identifier nums carrier skip w)).log.drop
      (w.log.length + 1)
    (∀ pre e post, new = pre ++ e :: post → ∃ num ∈ nums,
      IsNumberPost (.num c.id) carrier num e.1 ∧ (skip → Py.inList S num = false) ∧
      ∀ e' ∈ pre, e'.2.accepted → ¬ IsNumberPost (.num c.id) carrier num e'.1) ∧
    (acceptedNumbers new).Nodup ∧
    (skip → ∀ n ∈ acceptedNumbers new, Py.inList S n = false) ∧
    ∀ t w', addNumbersToClient gw identifier nums carrier skip w = .ok (some t) w' →
      t.added = (acceptedNumbers new).length ∧
      t.added ≤ (nums.toFinset.filter fun n => !Py.inList (if skip then S else []) n).card := by
  intro new
  rcases addNumbersToClient_listed hlist hc nums skip with
    ⟨e, w', h, hlen, -⟩ | ⟨req, rest, existing, -, -, hex₁, hex₂, h⟩
  · have hnew : new = [] := by
      simp only [new]
      rw [h]
      exact List.drop_eq_nil_of_le hlen
    rw [hnew]
    exact ⟨fun pre e post h => absurd h.symm (by simp), List.nodup_nil,
      fun _ _ h => (by simp [acceptedNumbers] at h), fun t w'' h' => by rw [h] at h'; cases h'⟩
  have hexisting : existing = if skip then S else [] := by
    cases skip
    · exact hex₂ rfl
    · exact Except.ok.inj ((hex₁ rfl).symm.trans (hS rfl))
  subst hexisting
  obtain ⟨w₁, hw₁⟩ : ∃ w₁ : World σ,
      { w with keys := rest, server := (gw.respond w.server req).2,
               log := w.log ++ [(req, (gw.respond w.server req).1)] } = w₁ := ⟨_, rfl⟩
  rw [hw₁] at h
  obtain ⟨hposts, hnodup, hskip, hret⟩ := @addNumbersLoop_fresh σ gw (.num c.id) carrier S skip
    nums w₁
  have hnew : new = (Cli.world (addNumbersLoop gw (.num c.id) carrier (if skip then S else [])
      nums w₁)).log.drop w₁.log.length := by
    simp only [new, h, Cli.world_bind_pure, ← hw₁, List.length_append, List.length_singleton]
  rw [hnew]
  refine ⟨hposts, hnodup, hskip, fun t w' h' => ?_⟩
  rw [h] at h'
  obtain ⟨acc, hl, hacc⟩ := Cli.bind_pure_ok h'
  cases hacc
  exact hret acc _ hl

theorem addNumbersToClient_fresh_accepting :
    ListsClients acceptingGateway () [acceptingClient] ∧
      expectedClient [acceptingClient] "2" = some acceptingClient ∧
      existingNumbers acceptingClient.toJVal = .ok [.str "12025550100"] ∧
      (∃ w', addNumbersToClient acceptingGateway "2" ["12025550100", "12025550101", "12025550101"]
        "telnyx" true ⟨⟨none, some "key"⟩, [], [], (), []⟩ = .ok (some ⟨1, 2, 0⟩) w') ∧
      ∀ t w', addNumbersToClient acceptingGateway "2" ["12025550100", "12025550101", "12025550101"]
        "telnyx" true ⟨⟨none, some "key"⟩, [], [], (), []⟩ = .ok (some t) w' → t.added ≤ 1 :=
  have hcard : (["12025550100", "12025550101", "12025550101"].toFinset.filter
      fun n => !Py.inList (if true then [.str "12025550100"] else []) n).card = 1 := by decide
  have hc : expectedClient [acceptingClient] "2" = some acceptingClient := rfl
  have hS : true = true → existingNumbers acceptingClient.toJVal = .ok [.str "12025550100"] :=
    fun _ => rfl
  ⟨acceptingGateway_lists, hc, hS rfl, ⟨_, rfl⟩, fun t w' h => hcard ▸
    ((addNumbersToClient_fresh acceptingGateway_lists hc true hS
      ["12025550100", "12025550101", "12025550101"]).2.2.2 t w' h).2⟩

/-! ## Where the numbers go -/

/-- **`add_numbers_to_client` posts only to the client the lookup names.** Against a gateway that
lists `cs`, every request of `add_numbers_to_client(identifier, numbers, ...)` is the lookup's
`GET`, or a post of one of `numbers` to the client `expectedClient cs identifier`, whatever the
gateway answers to the posts and however the call ends. -/
theorem addNumbersToClient_posts_to_expected {w : World σ} {cs : List ClientRecord}
    (hlist : ListsClients gw w.server cs) (identifier : String) (numbers : List String)
    (skipExisting : Bool) :
    ∃ new, (Cli.world (addNumbersToClient gw identifier numbers carrier skipExisting w)).log =
        w.log ++ new ∧
      ∀ e ∈ new, (e.1.method = .get ∧ e.1.path = "/clients") ∨
        ∃ c, expectedClient cs identifier = some c ∧
          ∃ num ∈ numbers, IsNumberPost (.num c.id) carrier num e.1 := by
  let P : Request → Prop := fun req => (req.method = .get ∧ req.path = "/clients") ∨
    ∃ c, expectedClient cs identifier = some c ∧
      ∃ num ∈ numbers, IsNumberPost (.num c.id) carrier num req
  have hlook : Cli.Keeps (Progress.sends P) (getClientByIdentifier gw identifier) :=
    getClientByIdentifier_keeps_of (send_keeps_sends fun _ _ => .inl ⟨rfl, rfl⟩) identifier
  show (Progress.sends P).rel w _
  unfold addNumbersToClient
  rw [Cli.bind_apply]
  have hlook := hlook w
  cases hrun : getClientByIdentifier gw identifier w with
  | error e w₁ => rw [hrun] at hlook; exact hlook
  | ok v w₁ =>
    rw [hrun] at hlook
    refine (Progress.sends P).trans hlook ?_
    rw [getClientByIdentifier_ok hlist hrun]
    cases hc : expectedClient cs identifier with
    | none => exact (Progress.sends P).refl w₁
    | some c =>
      refine Cli.keeps_ite (fun _ => Cli.keeps_pure _) (fun _ => ?_) w₁
      refine Cli.keeps_bind_post (Q := (· = .num c.id)) (Cli.keeps_liftExcept _)
        (fun _ _ _ h => by simp [liftExcept] at h; exact h.1.symm) fun _ hid => ?_
      subst hid
      refine Cli.keeps_bind (Cli.keeps_ite (fun _ => Cli.keeps_liftExcept _)
        fun _ => Cli.keeps_pure _) fun _ => Cli.keeps_bind ?_ fun _ => Cli.keeps_pure _
      exact Cli.keeps_foldlM (fun acc n hn => addNumber_keeps_of acc
        (send_keeps_sends fun _ _ => .inr ⟨c, hc, n, hn, rfl, rfl, rfl⟩)) _

theorem addNumbersToClient_posts_to_expected_accepting :
    ListsClients acceptingGateway () [acceptingClient] ∧
      ∃ new, (Cli.world (addNumbersToClient acceptingGateway "b" ["12025550101"] "telnyx" true
          ⟨⟨none, some "key"⟩, [], [], (), []⟩)).log = [] ++ new ∧
        ∀ e ∈ new, (e.1.method = .get ∧ e.1.path = "/clients") ∨
          ∃ c, expectedClient [acceptingClient] "b" = some c ∧
            ∃ num ∈ ["12025550101"], IsNumberPost (.num c.id) "telnyx" num e.1 :=
  ⟨acceptingGateway_lists, addNumbersToClient_posts_to_expected acceptingGateway_lists "b"
    ["12025550101"] true⟩

end MsggwManager

import MsggwManager.Numbers.Batch

/-!
# Adding numbers while other clients of the gateway add them too

`SetStore` answers each post from the set as the script left it. A real gateway serves other
clients at the same time: between two requests of the script, and while it handles one, others
may add numbers to the same client. `SharedSetStore` says only what such a gateway still
guarantees about the answer to a post of `num`: the set never shrinks and ends holding `num`; a
2xx means the gateway inserted `num`, so it was not in the set the previous answer left; any other
answer is an `already exists` error. A set store is one (`SetStore.shared`).

Against every such gateway, and so under every interleaving of the other clients' additions, the
loop of `add_numbers_to_client` loses no number and counts none twice
(`addNumbersLoop_sharedStore`): when it returns, every number of the batch, and every number the
client had, is in the set; `added + skipped` is the batch's length and `failed` is `0`; and
`added` is at most the number of the batch's distinct numbers the client did not have when the
loop started, however many of them the other clients added meanwhile.
-/

namespace MsggwManager

variable {σ : Type} {gw : Gateway σ} {clientId : JVal} {carrier : String}

/-- The gateway keeps client `clientId`'s numbers as a set that other clients may add to at any
time. Answering a post of `num` from state `s`, the set only grows and ends holding `num`; a 2xx
answer means `num` was not in the set at `s`, and any other answer is an error whose text
contains `already exists`. -/
structure SharedSetStore (gw : Gateway σ) (clientId : JVal) (numbers : σ → Finset String) :
    Prop where
  post : ∀ s req num carrier, IsNumberPost clientId carrier num req → ∃ r,
    (gw.respond s req).1 = .response r ∧
    numbers s ⊆ numbers (gw.respond s req).2 ∧ num ∈ numbers (gw.respond s req).2 ∧
    (is2xx r.status → num ∉ numbers s) ∧
    (is2xx r.status = false → Py.contains (errorText r) "already exists")

theorem SetStore.shared {numbers : σ → Finset String} (hstore : SetStore gw clientId numbers) :
    SharedSetStore gw clientId numbers := by
  refine ⟨fun s req num carrier ⟨hm, hp, hpay⟩ => ?_⟩
  by_cases hmem : num ∈ numbers s
  · obtain ⟨r, hr, h2xx, htext, hset⟩ := hstore.post_dup s req num carrier hm hp hpay hmem
    refine ⟨r, hr, hset ▸ subset_rfl, hset ▸ hmem, fun h => absurd h (by simp [h2xx]),
      fun _ => htext⟩
  · obtain ⟨r, hr, h2xx, hset⟩ := hstore.post_new s req num carrier hm hp hpay hmem
    exact ⟨r, hr, hset ▸ Finset.subset_insert _ _, hset ▸ Finset.mem_insert_self _ _,
      fun _ => hmem, fun h => absurd h2xx (by simp [h])⟩

theorem card_sdiff_le_of_grow {a : String} {R N N₁ : Finset String} (hN : N ⊆ N₁) :
    (R \ N₁).card ≤ (insert a R \ N).card :=
  Finset.card_le_card (Finset.sdiff_subset_sdiff (Finset.subset_insert a R) hN)

theorem card_sdiff_lt_of_grow {a : String} {R N N₁ : Finset String} (hN : N ⊆ N₁)
    (ha₁ : a ∈ N₁) (ha : a ∉ N) : (R \ N₁).card < (insert a R \ N).card := by
  refine Finset.card_lt_card ((Finset.ssubset_iff_of_subset
    (Finset.sdiff_subset_sdiff (Finset.subset_insert a R) hN)).mpr ⟨a, ?_, ?_⟩) <;>
    simp [ha, ha₁]

section Shared

variable {numbers : σ → Finset String} (hstore : SharedSetStore gw clientId numbers)
include hstore

theorem addNumber_shared {acc acc' : List JVal × Tally} {num : String} {w w' : World σ}
    (hex : ∀ n, Py.inList acc.1 n → n ∈ numbers w.server)
    (h : addNumber gw clientId carrier acc num w = .ok acc' w') :
    (∀ n, Py.inList acc'.1 n → n ∈ numbers w'.server) ∧
    numbers w.server ⊆ numbers w'.server ∧ num ∈ numbers w'.server ∧
    (acc'.2.added = acc.2.added ∨ acc'.2.added = acc.2.added + 1 ∧ num ∉ numbers w.server) ∧
    acc'.2.added + acc'.2.skipped = acc.2.added + acc.2.skipped + 1 ∧
    acc'.2.failed = acc.2.failed := by
  rcases addNumber_ok h with ⟨hin, rfl, rfl⟩ | ⟨-, auth, rest, rfl, rfl⟩
  · exact ⟨hex, subset_rfl, hex num hin, .inl rfl, by dsimp only; omega, rfl⟩
  · obtain ⟨r, hr, hsub, hnum, hnew, hdup⟩ := hstore.post w.server
      ⟨.post, baseUrl w.env, numbersPath clientId, auth, some (numberPayload num carrier)⟩
      num carrier ⟨rfl, rfl, rfl⟩
    dsimp only
    rw [hr]
    cases h2xx : is2xx r.status
    · rw [tallyOutcome_alreadyExists _ _ h2xx (alreadyExists_of_contains (hdup h2xx))]
      exact ⟨fun n hn => hsub (hex n hn), hsub, hnum, .inl rfl, by dsimp only; omega, rfl⟩
    · rw [tallyOutcome_accepted _ _ h2xx]
      refine ⟨fun n hn => ?_, hsub, hnum, .inr ⟨rfl, hnew h2xx⟩, by dsimp only; omega, rfl⟩
      rw [Py.inList_append_single, Bool.or_eq_true, beq_iff_eq] at hn
      rcases hn with hn | rfl
      · exact hsub (hex n hn)
      · exact hnum

theorem foldlM_addNumber_shared {nums : List String} {acc acc' : List JVal × Tally}
    {w w' : World σ} (hex : ∀ n, Py.inList acc.1 n → n ∈ numbers w.server)
    (h : nums.foldlM (addNumber gw clientId carrier) acc w = .ok acc' w') :
    numbers w.server ∪ nums.toFinset ⊆ numbers w'.server ∧
    acc'.2.added ≤ acc.2.added + (nums.toFinset \ numbers w.server).card ∧
    acc'.2.added + acc'.2.skipped = acc.2.added + acc.2.skipped + nums.length ∧
    acc'.2.failed = acc.2.failed := by
  induction nums generalizing acc w with
  | nil => rw [List.foldlM_nil] at h; cases h; simp
  | cons num rest ih =>
    obtain ⟨acc₁, w₁, h₁, h₂⟩ := Cli.foldlM_cons_ok h
    obtain ⟨hex₁, hsub₁, hnum₁, hadd₁, hsum₁, hfail₁⟩ :=
      addNumber_shared hstore hex h₁
    obtain ⟨hsub, hadd, hsum, hfail⟩ := ih hex₁ h₂
    refine ⟨fun n hn => ?_, ?_, by rw [hsum, hsum₁, List.length_cons]; omega,
      hfail.trans hfail₁⟩
    · rw [List.toFinset_cons, Finset.mem_union, Finset.mem_insert] at hn
      rcases hn with hn | rfl | hn
      · exact hsub (Finset.mem_union_left _ (hsub₁ hn))
      · exact hsub (Finset.mem_union_left _ hnum₁)
      · exact hsub (Finset.mem_union_right _ hn)
    · rw [List.toFinset_cons]
      rcases hadd₁ with hadd₁ | ⟨hadd₁, hnew⟩
      · have := card_sdiff_le_of_grow (a := num) (R := rest.toFinset) hsub₁
        omega
      · have := card_sdiff_lt_of_grow (R := rest.toFinset) hsub₁ hnum₁ hnew
        omega

/-- **No number is lost or counted twice, whatever the other clients add.** Against a gateway
whose client set other clients may add to at any time, from every exclusion list inside the
client's set and either `skip_existing`, when the loop returns every number the client had and
every number of the batch is in the set, `added + skipped = len(nums)`, `failed = 0`, and `added` is
at most the number of the batch's distinct numbers the client did not have at the start. -/
theorem addNumbersLoop_sharedStore (S : List JVal) (skip : Bool) (nums : List String)
    (w : World σ) (hS : ∀ n, Py.inList S n → n ∈ numbers w.server) :
    ∀ acc w', addNumbersLoop gw clientId carrier (if skip then S else []) nums w = .ok acc w' →
      numbers w.server ∪ nums.toFinset ⊆ numbers w'.server ∧
      acc.2.added ≤ (nums.toFinset \ numbers w.server).card ∧
      acc.2.added + acc.2.skipped = nums.length ∧ acc.2.failed = 0 := by
  intro acc w' h
  have hex : ∀ n, Py.inList (if skip then S else []) n → n ∈ numbers w.server := by
    cases skip
    · simp [Py.inList]
    · exact hS
  obtain ⟨hsub, hadd, hsum, hfail⟩ := foldlM_addNumber_shared hstore hex h
  simp only [Nat.zero_add] at hadd hsum hfail
  exact ⟨hsub, hadd, hsum, hfail⟩

end Shared

/-- The gateway `gw` where, before it handles each request, other clients move its state by
`other`. -/
def Gateway.after (gw : Gateway σ) (other : σ → σ) : Gateway σ where
  respond s req := gw.respond (other s) req

/-- **Other clients' additions keep a store shared.** Letting other clients add numbers before
each request of the script still gives a shared set store. -/
theorem SharedSetStore.after {numbers : σ → Finset String} {other : σ → σ}
    (hstore : SharedSetStore gw clientId numbers) (hgrow : ∀ s, numbers s ⊆ numbers (other s)) :
    SharedSetStore (gw.after other) clientId numbers := by
  refine ⟨fun s req num carrier hpost => ?_⟩
  obtain ⟨r, hr, hsub, hnum, hnew, hdup⟩ := hstore.post (other s) req num carrier hpost
  exact ⟨r, hr, (hgrow s).trans hsub, hnum, fun h hs => hnew h (hgrow s hs), hdup⟩

theorem addNumbersLoop_sharedStore_crowded :
    SharedSetStore ((setStoreGateway (.num 2)).after (insert "12025550199")) (.num 2) id ∧
    (∀ n, Py.inList [.str "12025550100"] n → n ∈ ({"12025550100"} : Finset String)) ∧
    ∀ acc w', addNumbersLoop ((setStoreGateway (.num 2)).after (insert "12025550199")) (.num 2)
      "telnyx" [.str "12025550100"] ["12025550199", "12025550101", "12025550101"]
      ⟨⟨none, some "key"⟩, [], [], {"12025550100"}, []⟩ = .ok acc w' →
      acc.2.added ≤ 2 ∧ acc.2.failed = 0 :=
  have hshared := (setStoreGateway_setStore (.num 2)).shared.after
    fun s => Finset.subset_insert "12025550199" s
  have hS : ∀ n, Py.inList [.str "12025550100"] n →
      n ∈ ({"12025550100"} : Finset String) := by
    intro n hn
    simp only [Py.inList, List.any_cons, List.any_nil, Bool.or_false, JVal.eqStr,
      beq_iff_eq] at hn
    simp [← hn]
  ⟨hshared, hS, fun acc w' h =>
    have hrun := addNumbersLoop_sharedStore hshared [.str "12025550100"] true
      ["12025550199", "12025550101", "12025550101"]
      ⟨⟨none, some "key"⟩, [], [], {"12025550100"}, []⟩ hS acc w' h
    ⟨hrun.2.1.trans (by decide), hrun.2.2.2⟩⟩

end MsggwManager

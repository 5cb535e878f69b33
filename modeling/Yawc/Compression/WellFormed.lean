import Yawc.Compression.Grammar

/-! Which parameters make an offer, and what the offer says. -/

namespace Yawc.Offer

/-- The parameters of an offer, with the values they may have. -/
inductive Allowed : Text × Option Text → Prop where
  | serverNoContextTakeover : Allowed ("server_no_context_takeover".toList, none)
  | clientNoContextTakeover : Allowed ("client_no_context_takeover".toList, none)
  | serverMaxWindowBits (bits : UInt8) (named : negotiable bits) :
      Allowed ("server_max_window_bits".toList, some (decimal bits))
  | clientWindow : Allowed ("client_max_window_bits".toList, none)
  | clientMaxWindowBits (bits : UInt8) (named : negotiable bits) :
      Allowed ("client_max_window_bits".toList, some (decimal bits))

/-- The parameters of an offer that need not be declined. -/
structure WellFormed (params : List (Text × Option Text)) : Prop where
  distinct : (params.map Prod.fst).Nodup
  allowed : ∀ param ∈ params, Allowed param

/-- What the parameters say, the offer says, and nothing else. -/
structure Means (params : List (Text × Option Text)) (offer : WebSocketExtensions) : Prop where
  serverFlag : offer.serverNoContextTakeover ↔
    ("server_no_context_takeover".toList, none) ∈ params
  clientFlag : offer.clientNoContextTakeover ↔
    ("client_no_context_takeover".toList, none) ∈ params
  serverWindow : ∀ window, offer.serverMaxWindowBits = some window ↔
    ("server_max_window_bits".toList, window.map decimal) ∈ params
  clientWindow : ∀ window, offer.clientMaxWindowBits = some window ↔
    ("client_max_window_bits".toList, window.map decimal) ∈ params

private theorem Means.nil : Means [] .default where
  serverFlag := by simp [WebSocketExtensions.default]
  clientFlag := by simp [WebSocketExtensions.default]
  serverWindow := by simp [WebSocketExtensions.default]
  clientWindow := by simp [WebSocketExtensions.default]

/-- Parameters say one thing only. -/
theorem Means.unique {params : List (Text × Option Text)} {first second : WebSocketExtensions}
    (means : Means params first) (means' : Means params second) : first = second := by
  obtain ⟨server, client, serverFlag, clientFlag⟩ := first
  obtain ⟨server', client', serverFlag', clientFlag'⟩ := second
  have windows : server = server' ∧ client = client' := by
    constructor
    · apply Option.ext
      intro window
      exact (means.serverWindow window).trans (means'.serverWindow window).symm
    · apply Option.ext
      intro window
      exact (means.clientWindow window).trans (means'.clientWindow window).symm
  have flags : serverFlag = serverFlag' ∧ clientFlag = clientFlag' := by
    constructor
    · exact Bool.eq_iff_iff.mpr (means.serverFlag.trans means'.serverFlag.symm)
    · exact Bool.eq_iff_iff.mpr (means.clientFlag.trans means'.clientFlag.symm)
  obtain ⟨rfl, rfl⟩ := windows
  obtain ⟨rfl, rfl⟩ := flags
  rfl

private theorem decimal_injective {first second : UInt8} (same : decimal first = decimal second) :
    first = second := by
  apply UInt8.toNat_inj.mp
  exact Nat.repr_injective (String.toList_inj.mp same)

theorem windowBits_eq_some_iff {text : Text} {bits : UInt8} :
    windowBits text = some bits ↔ negotiable bits ∧ text = decimal bits := by
  constructor
  · intro read
    unfold windowBits at read
    split at read
    · split at read
      · rename_i named
        obtain rfl := Option.some.inj read
        exact ⟨named.1, named.2.symm⟩
      · simp at read
    · simp at read
  · rintro ⟨named, rfl⟩
    exact windowBits_decimal named

/-- A window that the last parameter names, and that none before it did. -/
theorem window_last {past : List (Text × Option Text)} {key : Text} {value : Option UInt8}
    (new : key ∉ past.map Prod.fst) (window : Option UInt8) :
    some value = some window ↔ (key, window.map decimal) ∈ past ++ [(key, value.map decimal)] := by
  have absent : (key, window.map decimal) ∉ past :=
    fun member => new (List.mem_map.mpr ⟨_, member, rfl⟩)
  simp only [Option.some.injEq, List.mem_append, absent, List.mem_singleton, Prod.mk.injEq,
    true_and, false_or]
  constructor
  · rintro rfl
    rfl
  · intro same
    cases value with
    | none =>
      cases window with
      | none => rfl
      | some bits => simp at same
    | some bits =>
      cases window with
      | none => simp at same
      | some bits' =>
        simp only [Option.map_some, Option.some.injEq] at same
        rw [decimal_injective same]

/-- A parameter with another name does not say this. -/
theorem mem_last_iff {past : List (Text × Option Text)} {key name : Text} {value said : Option Text}
    (other : key ≠ name) : (key, value) ∈ past ++ [(name, said)] ↔ (key, value) ∈ past := by
  simp [other]

section Last

variable {past : List (Text × Option Text)} {start : WebSocketExtensions} {name : Text}
  {value : Option Text}

/-! A parameter leaves alone what only another one can say. -/

private theorem Means.serverFlag_last (means : Means past start)
    (other : "server_no_context_takeover".toList ≠ name) :
    start.serverNoContextTakeover ↔
      ("server_no_context_takeover".toList, none) ∈ past ++ [(name, value)] :=
  means.serverFlag.trans (mem_last_iff other).symm

private theorem Means.clientFlag_last (means : Means past start)
    (other : "client_no_context_takeover".toList ≠ name) :
    start.clientNoContextTakeover ↔
      ("client_no_context_takeover".toList, none) ∈ past ++ [(name, value)] :=
  means.clientFlag.trans (mem_last_iff other).symm

private theorem Means.serverWindow_last (means : Means past start)
    (other : "server_max_window_bits".toList ≠ name) (window : Option UInt8) :
    start.serverMaxWindowBits = some window ↔
      ("server_max_window_bits".toList, window.map decimal) ∈ past ++ [(name, value)] :=
  (means.serverWindow window).trans (mem_last_iff other).symm

private theorem Means.clientWindow_last (means : Means past start)
    (other : "client_max_window_bits".toList ≠ name) (window : Option UInt8) :
    start.clientMaxWindowBits = some window ↔
      ("client_max_window_bits".toList, window.map decimal) ∈ past ++ [(name, value)] :=
  (means.clientWindow window).trans (mem_last_iff other).symm

end Last

/-- A parameter is read exactly if it is allowed, and then says what it adds. -/
theorem readParam_sound {past : List (Text × Option Text)} {start next : WebSocketExtensions}
    {name : Text} {value : Option Text} (means : Means past start)
    (new : name ∉ past.map Prod.fst) (read : readParam start name value = some next) :
    Allowed (name, value) ∧ Means (past ++ [(name, value)]) next := by
  unfold readParam at read
  split at read
  · rename_i flag
    obtain ⟨rfl, rfl⟩ := flag
    obtain rfl := Option.some.inj read
    exact ⟨.serverNoContextTakeover, by simp, means.clientFlag_last (by decide),
      means.serverWindow_last (by decide), means.clientWindow_last (by decide)⟩
  · split at read
    · rename_i flag
      obtain ⟨rfl, rfl⟩ := flag
      obtain rfl := Option.some.inj read
      exact ⟨.clientNoContextTakeover, means.serverFlag_last (by decide), by simp,
        means.serverWindow_last (by decide), means.clientWindow_last (by decide)⟩
    · split at read
      · rename_i key
        subst key
        cases value with
        | none => simp at read
        | some text =>
          obtain ⟨bits, found, rfl⟩ := Option.map_eq_some_iff.mp read
          obtain ⟨named, rfl⟩ := windowBits_eq_some_iff.mp found
          exact ⟨.serverMaxWindowBits bits named, means.serverFlag_last (by decide),
            means.clientFlag_last (by decide), window_last new, means.clientWindow_last (by decide)⟩
      · split at read
        · rename_i key
          subst key
          cases value with
          | none =>
            obtain rfl := Option.some.inj read
            exact ⟨.clientWindow, means.serverFlag_last (by decide),
              means.clientFlag_last (by decide), means.serverWindow_last (by decide),
              window_last new⟩
          | some text =>
            obtain ⟨bits, found, rfl⟩ := Option.map_eq_some_iff.mp read
            obtain ⟨named, rfl⟩ := windowBits_eq_some_iff.mp found
            exact ⟨.clientMaxWindowBits bits named, means.serverFlag_last (by decide),
              means.clientFlag_last (by decide), means.serverWindow_last (by decide),
              window_last new⟩
        · simp at read

private theorem readParam_complete {name : Text} {value : Option Text}
    (allowed : Allowed (name, value))
    (start : WebSocketExtensions) : ∃ next, readParam start name value = some next := by
  cases allowed with
  | serverNoContextTakeover => exact ⟨_, rfl⟩
  | clientNoContextTakeover => exact ⟨_, rfl⟩
  | serverMaxWindowBits bits named => simp [readParam, windowBits_decimal named]
  | clientWindow => exact ⟨_, rfl⟩
  | clientMaxWindowBits bits named => simp [readParam, windowBits_decimal named]

/-- The parameters behind those already read are accepted exactly if all of them
together are well formed. -/
theorem readParams_spec (params : List (Text × Option Text)) {past : List (Text × Option Text)}
    {start : WebSocketExtensions} (wellFormed : WellFormed past) (means : Means past start) :
    (∀ result, readParams (past.map Prod.fst) start params = some result →
      WellFormed (past ++ params) ∧ Means (past ++ params) result) ∧
    (WellFormed (past ++ params) →
      ∃ result, readParams (past.map Prod.fst) start params = some result) := by
  induction params generalizing past start with
  | nil =>
    rw [List.append_nil]
    refine ⟨?_, fun _ => ⟨start, rfl⟩⟩
    intro result read
    obtain rfl := Option.some.inj read
    exact ⟨wellFormed, means⟩
  | cons param params ih =>
    obtain ⟨name, value⟩ := param
    have joined : past ++ (name, value) :: params = past ++ [(name, value)] ++ params := by simp
    have names : past.map Prod.fst ++ [name] = (past ++ [(name, value)]).map Prod.fst := by simp
    by_cases new : name ∈ past.map Prod.fst
    · have repeated : readParams (past.map Prod.fst) start ((name, value) :: params) = none := by
        rw [readParams, if_pos (by simpa using new)]
      refine ⟨by simp [repeated], fun whole => ?_⟩
      have distinct := whole.distinct
      rw [List.map_append, List.nodup_append] at distinct
      exact absurd rfl (distinct.2.2 name new name (by simp))
    · have first : readParams (past.map Prod.fst) start ((name, value) :: params) =
          (readParam start name value).bind fun next =>
            readParams ((past ++ [(name, value)]).map Prod.fst) next params := by
        rw [readParams, if_neg (by simpa using new), names]
        cases readParam start name value <;> rfl
      have extended (allowed : Allowed (name, value)) : WellFormed (past ++ [(name, value)]) := by
        constructor
        · rw [← names, List.nodup_append]
          refine ⟨wellFormed.distinct, List.nodup_singleton name, ?_⟩
          intro earlier member last single
          rw [List.mem_singleton.mp single]
          exact fun same => new (same ▸ member)
        · intro param member
          rcases List.mem_append.mp member with old | last
          · exact wellFormed.allowed param old
          · rw [List.mem_singleton.mp last]
            exact allowed
      rw [first, joined]
      constructor
      · intro result read
        obtain ⟨next, one, rest⟩ := Option.bind_eq_some_iff.mp read
        obtain ⟨allowed, means'⟩ := readParam_sound means new one
        exact (ih (extended allowed) means').1 result rest
      · intro whole
        have allowed := whole.allowed (name, value) (by simp)
        obtain ⟨next, one⟩ := readParam_complete allowed start
        obtain ⟨-, means'⟩ := readParam_sound means new one
        obtain ⟨result, rest⟩ := (ih (extended allowed) means').2 whole
        exact ⟨result, by rw [one, Option.bind_some, rest]⟩

/-- An offer is taken exactly if its parameters are well formed, as what they
say. -/
theorem offer_eq_some_iff {params : List (Text × Option Text)} {said : WebSocketExtensions} :
    offer params = some said ↔ WellFormed params ∧ Means params said := by
  have start : WellFormed [] := ⟨by simp, by simp⟩
  obtain ⟨sound, complete⟩ := readParams_spec params start .nil
  constructor
  · exact sound said
  · rintro ⟨wellFormed, means⟩
    obtain ⟨result, read⟩ := complete wellFormed
    rw [(sound result read).2.unique means] at read
    exact read

end Yawc.Offer

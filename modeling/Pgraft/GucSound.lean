import Pgraft.Guc

/-!
# What the configuration pipeline accepts

`pgraft_validate_configuration` accepts exactly the settings of `Gucs.Checked`: a token, a
listen URL, at least one member token of the form `name=url` with a name and `http://` or
`https://` in the URL, a known cluster state, and the four bounded settings in range
(`validate_iff_checked`).

Every configuration the checks of `pgraft_init_from_gucs` build is well formed
(`initConfig_wf`): its members are those of `initial_cluster` in order, each named, with a
host and a port in `1 .. 65535`, and its listen address has a port in `1024 .. 65535`. The
validation runs last and reads the member tokens again; a member token it accepts is read by
the parser as the same name, so the names the Go layer gets are never empty.

Conversely a configuration written in the documented format, `name=scheme://host:port`
members separated by commas, with the integer settings `SET` admits, is accepted and read back
exactly (`init_config_of_documented`, from `parse_render_initial_cluster` and
`pgraftParseUrl_of_scheme`).

The optional URLs never stop the checks and reach only their own fields of the configuration;
one whose port is out of range is not rejected: `pgraft_parse_url` has already stored the host
it then frees, and the configuration keeps that freed host (`optional_urls_keep_freed_host`).
-/

namespace Pgraft

/-! ## Fallible steps -/

section Except

variable {α β ε : Type}

theorem bind_eq_ok {x : Except ε α} {f : α → Except ε β} {b : β} :
    x >>= f = .ok b ↔ ∃ a, x = .ok a ∧ f a = .ok b := by
  cases x <;> simp [bind, Except.bind]

theorem bind_unit_eq_ok {x : Except ε Unit} {y : Except ε β} {b : β} :
    (x >>= fun _ => y) = .ok b ↔ x = .ok () ∧ y = .ok b := by
  rcases x with _ | ⟨⟨⟩⟩ <;> simp [bind, Except.bind]

theorem mapM_eq_ok {f : α → Except ε β} :
    ∀ {l : List α} {ys : List β}, l.mapM f = .ok ys ↔ List.Forall₂ (fun a b => f a = .ok b) l ys
  | [], ys => by
    rw [List.mapM_nil]
    cases ys <;> simp [pure, Except.pure]
  | a :: l, ys => by
    simp only [List.mapM_cons, bind_eq_ok, mapM_eq_ok]
    cases ys with
    | nil => simp [pure, Except.pure]
    | cons y ys =>
      simp only [List.forall₂_cons, pure, Except.pure, Except.ok.injEq, List.cons.injEq]
      constructor
      · rintro ⟨b, hb, bs, hbs, rfl, rfl⟩; exact ⟨hb, hbs⟩
      · rintro ⟨hb, hbs⟩; exact ⟨y, hb, ys, hbs, rfl, rfl⟩

theorem forall_mem_of_forall₂ {R : α → β → Prop} {P : β → Prop} :
    ∀ {l₁ : List α} {l₂ : List β}, List.Forall₂ R l₁ l₂ → (∀ a ∈ l₁, ∀ b, R a b → P b) →
      ∀ b ∈ l₂, P b
  | _, _, .nil, _ => nofun
  | _, _, .cons hab h, hP => by
    intro b hb
    rcases List.mem_cons.mp hb with rfl | hb
    · exact hP _ (List.mem_cons_self _ _) _ hab
    · exact forall_mem_of_forall₂ h (fun a ha => hP a (List.mem_cons_of_mem _ ha)) b hb

end Except

/-! ## Tokens -/

theorem strstr_iff {hay needle : List Char} : strstr hay needle = true ↔ needle <:+: hay := by
  simp only [strstr, List.any_eq_true, List.mem_tails, List.isPrefixOf_iff_prefix,
    List.infix_iff_prefix_suffix]
  exact ⟨fun ⟨t, ht, hp⟩ => ⟨t, hp, ht⟩, fun ⟨t, hp, ht⟩ => ⟨t, ht, hp⟩⟩

/-- `strchr` finds the separator after a part without it. -/
theorem span_sep {c : Char} {name rest : List Char} (h : c ∉ name) :
    (name ++ c :: rest).span (· ≠ c) = (name, c :: rest) := by
  rw [List.span_eq_take_drop, List.takeWhile_append_of_pos, List.dropWhile_append_of_pos]
  · simp
  all_goals intro a ha; simp only [ne_eq, decide_eq_true_eq]; rintro rfl; exact h ha

/-- A token either holds no separator, or splits at its first one. -/
theorem span_cases (c : Char) (t : List Char) :
    (c ∉ t ∧ t.span (· ≠ c) = (t, [])) ∨
      ∃ name rest, t = name ++ c :: rest ∧ c ∉ name ∧ t.span (· ≠ c) = (name, c :: rest) := by
  rw [List.span_eq_take_drop]
  have hn : c ∉ t.takeWhile (· ≠ c) := fun h => by simpa using List.mem_takeWhile_imp h
  have ht := List.takeWhile_append_dropWhile (· ≠ c) t
  cases hd : t.dropWhile (· ≠ c) with
  | nil =>
    rw [hd, List.append_nil] at ht
    exact .inl ⟨ht ▸ hn, by rw [ht]⟩
  | cons d rest =>
    have hdc := List.head_dropWhile_not (· ≠ c) t (by rw [hd]; exact List.cons_ne_nil _ _)
    simp only [hd, List.head_cons, ne_eq, decide_eq_false_iff_not, not_not] at hdc
    subst hdc
    rw [hd] at ht
    exact .inr ⟨_, rest, ht.symm, hn, rfl⟩

theorem sep_unique {c : Char} {n₁ r₁ n₂ r₂ : List Char} (h₁ : c ∉ n₁) (h₂ : c ∉ n₂)
    (h : n₁ ++ c :: r₁ = n₂ ++ c :: r₂) : n₁ = n₂ ∧ r₁ = r₂ := by
  have := (@span_sep c n₁ r₁ h₁).symm.trans (h ▸ span_sep h₂)
  simp only [Prod.mk.injEq, List.cons.injEq, true_and] at this
  exact this

theorem dropWhile_isspace_of_head {l : List Char} (h : ∀ c ∈ l.head?, isspace c = false) :
    l.dropWhile isspace = l := by
  cases l with
  | nil => rfl
  | cons c cs => exact List.dropWhile_cons_of_neg (by simpa using h c rfl)

@[simp] theorem trimmedTokens_nil : trimmedTokens [] = [] := rfl

theorem trimmedTokens_cons_blank {t : List Char} (ts : List (List Char))
    (ht : t.dropWhile isspace = []) : trimmedTokens (t :: ts) = trimmedTokens ts := by
  simp [trimmedTokens, ht]

theorem trimmedTokens_cons {t : List Char} (ts : List (List Char))
    (ht : t.dropWhile isspace ≠ []) :
    trimmedTokens (t :: ts) = t.dropWhile isspace :: trimmedTokens ts := by
  simp [trimmedTokens, ht]

/-- A trimmed token is not blank and does not start with white space. -/
theorem mem_trimmedTokens {t : List Char} {toks : List (List Char)} (h : t ∈ trimmedTokens toks) :
    t ≠ [] ∧ ∀ c ∈ t.head?, isspace c = false := by
  simp only [trimmedTokens, List.mem_filter, List.mem_map, ne_eq, decide_eq_true_eq] at h
  obtain ⟨⟨x, -, rfl⟩, hne⟩ := h
  refine ⟨hne, fun c hc => ?_⟩
  have := List.head_dropWhile_not isspace x hne
  rw [List.head?_eq_head hne, Option.mem_def, Option.some.injEq] at hc
  rwa [hc] at this

/-- The second pass fills one member per token that is not blank: its bound `count` is the
number the first pass counted, and never stops it early. -/
theorem fillMembers_eq : ∀ toks : List (List Char),
    fillMembers (trimmedTokens toks).length toks = (trimmedTokens toks).mapM parseMemberToken
  | [] => rfl
  | t :: ts => by
    by_cases ht : t.dropWhile isspace = []
    · rw [trimmedTokens_cons_blank ts ht]
      cases hc : (trimmedTokens ts).length with
      | zero => rw [List.length_eq_zero.mp hc]; rfl
      | succ n => rw [fillMembers, if_pos ht, ← hc, fillMembers_eq ts]
    · rw [trimmedTokens_cons ts ht, List.length_cons, fillMembers, if_neg ht, fillMembers_eq ts,
        List.mapM_cons]

/-- `pgraft_parse_initial_cluster` parses each member token in turn. -/
theorem pgraftParseInitialCluster_eq (s : String) :
    pgraftParseInitialCluster s = (memberTokens s).mapM parseMemberToken := by
  rw [pgraftParseInitialCluster]
  by_cases h : s = ""
  · subst h; rfl
  · rw [if_neg h]
    dsimp only
    split
    · next h => rw [List.length_eq_zero.mp h]; rfl
    · exact fillMembers_eq _

/-- The check's loop accepts when each member token passes, and counts them. -/
theorem validateMembers_eq_ok : ∀ (toks : List (List Char)) (n : Nat),
    validateMembers toks = .ok n ↔
      (∀ t ∈ trimmedTokens toks, validateMember t = .ok ()) ∧ n = (trimmedTokens toks).length
  | [], n => by simp [validateMembers, eq_comm]
  | t :: ts, n => by
    by_cases ht : t.dropWhile isspace = []
    · rw [trimmedTokens_cons_blank ts ht, validateMembers, if_pos ht, validateMembers_eq_ok ts]
    · rw [trimmedTokens_cons ts ht, validateMembers, if_neg ht]
      simp only [bind_eq_ok, List.forall_mem_cons, List.length_cons, validateMembers_eq_ok ts]
      constructor
      · rintro ⟨u, hu, m, ⟨hall, rfl⟩, he⟩
        exact ⟨⟨hu, hall⟩, (Except.ok.inj he).symm⟩
      · rintro ⟨⟨hu, hall⟩, rfl⟩
        exact ⟨(), hu, _, ⟨hall, rfl⟩, rfl⟩

/-! ## Member tokens -/

/-- A member token as the check accepts it: a name, `=`, and after it a URL holding `http://`
or `https://`. -/
def MemberToken (t : List Char) : Prop :=
  ∃ name url, t = name ++ '=' :: url ∧ '=' ∉ name ∧ name ≠ [] ∧
    ("http://".data <:+: url ∨ "https://".data <:+: url)

theorem validateMember_eq_ok {t : List Char} : validateMember t = .ok () ↔ MemberToken t := by
  rcases span_cases '=' t with ⟨hn, hs⟩ | ⟨name, url, rfl, hn, hs⟩
  · rw [validateMember, hs]
    exact ⟨nofun, fun ⟨name, url, he, _⟩ => (hn (he ▸ by simp)).elim⟩
  rw [validateMember, hs]
  dsimp only
  by_cases h1 : name = []
  · rw [if_pos h1]
    exact ⟨nofun, fun ⟨n', u', he, hn', h1', _⟩ => (h1' ((sep_unique hn hn' he).1 ▸ h1)).elim⟩
  rw [if_neg h1]
  have hurl : (strstr url "http://".data || strstr url "https://".data) = true ↔
      ("http://".data <:+: url ∨ "https://".data <:+: url) := by
    rw [Bool.or_eq_true, strstr_iff, strstr_iff]
  by_cases h2 : (strstr url "http://".data || strstr url "https://".data) = true
  · rw [if_neg (by rw [h2]; decide)]
    exact ⟨fun _ => ⟨name, url, rfl, hn, h1, hurl.1 h2⟩, fun _ => rfl⟩
  · rw [if_pos (by simpa using h2)]
    refine ⟨nofun, fun ⟨n', u', he, hn', _, h4⟩ => (h2 ?_).elim⟩
    obtain ⟨-, rfl⟩ := sep_unique hn hn' he
    exact hurl.2 h4

theorem parseMemberToken_sep {name url : List Char} (h : '=' ∉ name) :
    parseMemberToken (name ++ '=' :: url) =
      .ok ⟨⟨name.dropWhile isspace⟩, ⟨url.dropWhile isspace⟩⟩ := by
  rw [parseMemberToken, span_sep h]

/-- A member token the check accepts is read by the parser as its name, unchanged, and its URL
after white space. -/
theorem parseMemberToken_of_memberToken {t : List Char} {toks : List (List Char)}
    (ht : t ∈ trimmedTokens toks) (hm : MemberToken t) :
    ∃ name url, name ≠ [] ∧ ("http://".data <:+: url ∨ "https://".data <:+: url) ∧
      parseMemberToken t = .ok ⟨⟨name⟩, ⟨url.dropWhile isspace⟩⟩ := by
  obtain ⟨name, url, rfl, hn, h1, h2⟩ := hm
  refine ⟨name, url, h1, h2, ?_⟩
  rw [parseMemberToken_sep hn, dropWhile_isspace_of_head]
  obtain ⟨-, hh⟩ := mem_trimmedTokens ht
  obtain ⟨c, cs, rfl⟩ := List.exists_cons_of_ne_nil h1
  simpa using hh

/-! ## The check -/

theorem checkRange_eq_ok {field unit : String} {lo hi v : Int} :
    checkRange field lo hi unit v = .ok () ↔ lo ≤ v ∧ v ≤ hi := by
  unfold checkRange
  split <;> simp <;> omega

/-- What `pgraft_validate_configuration` asks of the variables. -/
structure Gucs.Checked (g : Gucs) : Prop where
  token : g.initialClusterToken ≠ ""
  listenPeerUrls : g.listenPeerUrls ≠ ""
  members_ne_nil : memberTokens g.initialCluster ≠ []
  members : ∀ t ∈ memberTokens g.initialCluster, MemberToken t
  state : g.initialClusterState = "" ∨ g.initialClusterState = "new" ∨
    g.initialClusterState = "existing"
  heartbeat : 10 ≤ g.heartbeatInterval ∧ g.heartbeatInterval ≤ 10000
  election : 100 ≤ g.electionTimeout ∧ g.electionTimeout ≤ 30000
  snapshot : 100 ≤ g.snapshotCount ∧ g.snapshotCount ≤ 1000000
  maxLogEntries : 100 ≤ g.maxLogEntries ∧ g.maxLogEntries ≤ 1000000

/-- `pgraft_validate_configuration` returns exactly on the settings of `Gucs.Checked`. -/
theorem validate_iff_checked (g : Gucs) :
    pgraftValidateConfiguration g = .ok () ↔ g.Checked := by
  unfold pgraftValidateConfiguration
  by_cases h1 : g.initialClusterToken = ""
  · simp only [h1, if_true]; exact ⟨nofun, fun h => (h.token h1).elim⟩
  by_cases h2 : g.listenPeerUrls = ""
  · simp only [h1, h2, if_true, if_false]; exact ⟨nofun, fun h => (h.listenPeerUrls h2).elim⟩
  by_cases h3 : g.initialCluster = ""
  · simp only [h1, h2, h3, if_true, if_false]
    exact ⟨nofun, fun h => (h.members_ne_nil (by rw [h3]; rfl)).elim⟩
  simp only [h1, h2, h3, if_false]
  have hmem : (∀ t ∈ memberTokens g.initialCluster, validateMember t = .ok ()) ↔
      ∀ t ∈ memberTokens g.initialCluster, MemberToken t :=
    forall₂_congr fun _ _ => validateMember_eq_ok
  cases hv : validateMembers (strtokR ',' g.initialCluster.data) with
  | error m =>
    refine ⟨nofun, fun h => ?_⟩
    have := (validateMembers_eq_ok _ _).2 ⟨hmem.2 h.members, rfl⟩
    rw [hv] at this; cases this
  | ok n =>
    obtain ⟨hall, rfl⟩ := (validateMembers_eq_ok _ _).1 hv
    by_cases h4 : (memberTokens g.initialCluster).length < 1
    · have h4' : (trimmedTokens (strtokR ',' g.initialCluster.data)).length < 1 := h4
      simp only [h4', if_true]
      exact ⟨nofun, fun h => (h.members_ne_nil (List.length_eq_zero.mp (by omega))).elim⟩
    have h4' : ¬(trimmedTokens (strtokR ',' g.initialCluster.data)).length < 1 := h4
    simp only [h4', if_false]
    by_cases h5 : g.initialClusterState ≠ "" ∧ g.initialClusterState ≠ "new" ∧
        g.initialClusterState ≠ "existing"
    · rw [if_pos h5]
      exact ⟨nofun, fun h => (by rcases h.state with e | e | e <;> simp [e] at h5)⟩
    rw [if_neg h5]
    simp only [bind_unit_eq_ok, checkRange_eq_ok]
    have hs : g.initialClusterState = "" ∨ g.initialClusterState = "new" ∨
        g.initialClusterState = "existing" := by tauto
    exact ⟨fun ⟨hb, he, hn, hm⟩ =>
        ⟨h1, h2, fun e => h4 (by rw [e]; decide), hmem.1 hall, hs, hb, he, hn, hm⟩,
      fun h => ⟨h.heartbeat, h.election, h.snapshot, h.maxLogEntries⟩⟩

/-- The bounds `SET` enforces on the four settings the check bounds are the check's own, so
its range errors are never raised on a setting `SET` admitted. -/
theorem Gucs.InBounds.ranges {g : Gucs} (hb : g.InBounds) :
    (10 ≤ g.heartbeatInterval ∧ g.heartbeatInterval ≤ 10000) ∧
      (100 ≤ g.electionTimeout ∧ g.electionTimeout ≤ 30000) ∧
      (100 ≤ g.snapshotCount ∧ g.snapshotCount ≤ 1000000) ∧
      (100 ≤ g.maxLogEntries ∧ g.maxLogEntries ≤ 1000000) := by
  simp only [Gucs.InBounds, intGucs, List.mem_cons, List.mem_singleton, forall_eq_or_imp,
    forall_eq] at hb
  omega

/-- Every boot value lies within its own bounds. -/
theorem Gucs.default_inBounds : Gucs.default.InBounds ∧
    ∀ v ∈ intGucs, v.get Gucs.default = v.bootValue := by
  decide

/-! ## URLs -/

/-- A URL `pgraft_parse_url` accepts gives a host without a colon and a port in range. -/
theorem pgraftParseUrl_eq_ok {url host : String} {port : Int}
    (h : pgraftParseUrl url = .ok host port) : ':' ∉ host.data ∧ 1 ≤ port ∧ port ≤ 65535 := by
  unfold pgraftParseUrl at h
  split at h
  · cases h
  dsimp only at h
  split at h
  · cases h
  · next host' c rest hs =>
    split at h
    · cases h
    · cases h
      rw [List.span_eq_take_drop, Prod.mk.injEq] at hs
      refine ⟨fun hm => ?_, by omega, by omega⟩
      have := List.mem_takeWhile_imp (hs.1 ▸ hm)
      simp at this

/-- A printed integer does not start with white space. -/
theorem dropWhile_isspace_toString (v : Int) :
    (toString v).data.dropWhile isspace = (toString v).data := by
  have hd := (toString_int_chars v).2
  cases h : (toString v).data with
  | nil => rfl
  | cons c cs =>
    rw [List.dropWhile_cons_of_neg
      (by simp [isspace_of_isDigit (hd c (h ▸ List.mem_cons_self c cs))])]

theorem glibcAtoi_toString {v : Int} (h : -2 ^ 31 ≤ v ∧ v < 2 ^ 31) :
    glibcAtoi (toString v).data = v := by
  have hs := @scanDecimal_toString v [] nofun
  rw [List.append_nil] at hs
  rw [glibcAtoi, dropWhile_isspace_toString, hs, Option.getD_some, scanInt_of_int32 h]

/-- `scheme://host:port` reads back as its host and port. -/
theorem pgraftParseUrl_of_scheme {scheme host : String} {port : Int}
    (hs : scheme = "http://" ∨ scheme = "https://") (hh : ':' ∉ host.data)
    (hp : 1 ≤ port ∧ port ≤ 65535) :
    pgraftParseUrl ⟨scheme.data ++ host.data ++ ':' :: (toString port).data⟩ = .ok host port := by
  have hne : (⟨scheme.data ++ host.data ++ ':' :: (toString port).data⟩ : String) ≠ "" :=
    fun e => by simpa using congrArg String.data e
  have ha : glibcAtoi (toString port).data = port := glibcAtoi_toString ⟨by omega, by omega⟩
  rw [pgraftParseUrl, if_neg hne]
  dsimp only
  have hstart : (if "http://".data.isPrefixOf (scheme.data ++ (host.data ++ ':' :: (toString port).data))
      then (scheme.data ++ (host.data ++ ':' :: (toString port).data)).drop 7
      else if "https://".data.isPrefixOf (scheme.data ++ (host.data ++ ':' :: (toString port).data))
      then (scheme.data ++ (host.data ++ ':' :: (toString port).data)).drop 8
      else scheme.data ++ (host.data ++ ':' :: (toString port).data)) =
      host.data ++ ':' :: (toString port).data := by
    rcases hs with rfl | rfl
    · rw [if_pos (List.isPrefixOf_iff_prefix.mpr (List.prefix_append _ _)),
        List.drop_left' (show "http://".data.length = 7 from rfl)]
    · rw [if_neg (by simp [show "http://".data.isPrefixOf
          ("https://".data ++ host.data ++ ':' :: (toString port).data) = false from rfl]),
        if_pos (List.isPrefixOf_iff_prefix.mpr (List.prefix_append _ _)),
        List.drop_left' (show "https://".data.length = 8 from rfl)]
  rw [List.append_assoc, hstart, span_sep hh]
  simp only [ha]
  rw [if_neg (by omega)]

/-! ## The configuration handed over -/

theorem goMember_eq_ok {m : ClusterMember} {gm : GoMember} :
    goMember m = .ok gm ↔ ∃ host port, pgraftParseUrl m.peerUrl = .ok host port ∧
      gm = ⟨m.name, host, port⟩ := by
  unfold goMember
  split
  · next host port hu =>
    simp only [hu, Except.ok.injEq, UrlResult.ok.injEq]
    exact ⟨fun e => ⟨host, port, ⟨rfl, rfl⟩, e.symm⟩, fun ⟨_, _, ⟨h1, h2⟩, e⟩ => h1 ▸ h2 ▸ e.symm⟩
  · next hu => simp only [reduceCtorEq, false_iff]; rintro ⟨host, port, he, -⟩; exact hu host port he

/-- The checks of `pgraft_init_from_gucs`, in its order, and the configuration they build. -/
theorem initConfig_eq_ok {g : Gucs} {c : GoConfig} :
    initConfig g = .ok c ↔ ∃ ms, pgraftParseInitialCluster g.initialCluster = .ok ms ∧ ms ≠ [] ∧
      ∃ gms, ms.mapM goMember = .ok gms ∧
      ∃ host port, pgraftParseUrl g.listenPeerUrls = .ok host port ∧
      g.initialClusterToken ≠ "" ∧ host ≠ "" ∧ 1024 ≤ port ∧ port ≤ 65535 ∧
      pgraftValidateConfiguration g = .ok () ∧ c = goConfigOf g gms host port := by
  simp only [initConfig, bind_eq_ok]
  refine exists_congr fun ms => and_congr_right fun _ => ?_
  by_cases hm : ms = []
  · simp [hm]
  simp only [List.length_eq_zero, hm, if_false, bind_eq_ok, ne_eq, not_false_eq_true, true_and]
  refine exists_congr fun gms => and_congr_right fun _ => ?_
  cases pgraftParseUrl g.listenPeerUrls with
  | ok host port =>
    simp only [UrlResult.ok.injEq]
    by_cases h1 : g.initialClusterToken = ""
    · simp [h1]
    by_cases h2 : host = ""
    · simp only [h1, h2, if_false, if_true]
      exact ⟨nofun, by rintro ⟨_, _, ⟨rfl, rfl⟩, -, h, -⟩; exact (h rfl).elim⟩
    by_cases h3 : port < 1024 ∨ 65535 < port
    · simp only [h1, h2, h3, if_false, if_true]
      exact ⟨nofun, by rintro ⟨_, _, ⟨rfl, rfl⟩, -, -, h4, h5, -⟩; omega⟩
    rw [if_neg h1, if_neg h2, if_neg h3]
    simp only [bind_unit_eq_ok, pure, Except.pure, Except.ok.injEq]
    constructor
    · rintro ⟨hv, rfl⟩; exact ⟨host, port, ⟨rfl, rfl⟩, h1, h2, by omega, by omega, hv, rfl⟩
    · rintro ⟨_, _, ⟨rfl, rfl⟩, -, -, -, -, hv, rfl⟩; exact ⟨hv, rfl⟩
  | badPort p => simp
  | noPort => simp

/-- What the Go layer can rely on in a configuration: at least one member, each named, with a
host without a colon and a port in `1 .. 65535`; a listen host without a colon and a port in
`1024 .. 65535`, which are also the legacy address and port; a cluster token; node id `1`;
and the four settings the check bounds within their ranges. -/
structure GoConfig.Wf (c : GoConfig) : Prop where
  members_ne_nil : c.clusterMembers ≠ []
  member_name : ∀ m ∈ c.clusterMembers, m.name ≠ ""
  member_host : ∀ m ∈ c.clusterMembers, ':' ∉ m.peerHost.data
  member_port : ∀ m ∈ c.clusterMembers, 1 ≤ m.peerPort ∧ m.peerPort ≤ 65535
  listen_host : c.listenPeerHost ≠ "" ∧ ':' ∉ c.listenPeerHost.data
  listen_port : 1024 ≤ c.listenPeerPort ∧ c.listenPeerPort ≤ 65535
  address : c.address = c.listenPeerHost ∧ c.port = c.listenPeerPort
  cluster_id : c.clusterId ≠ ""
  node_id : c.nodeId = 1
  heartbeat : 10 ≤ c.heartbeatInterval ∧ c.heartbeatInterval ≤ 10000
  election : 100 ≤ c.electionTimeout ∧ c.electionTimeout ≤ 30000
  snapshot : 100 ≤ c.snapshotInterval ∧ c.snapshotInterval ≤ 1000000
  max_log_entries : 100 ≤ c.maxLogEntries ∧ c.maxLogEntries ≤ 1000000

/-- The members parsed from `initial_cluster` on settings the check accepts are all named. -/
theorem parsed_member_name {g : Gucs} {ms : List ClusterMember} (hg : g.Checked)
    (hp : pgraftParseInitialCluster g.initialCluster = .ok ms) : ∀ m ∈ ms, m.name ≠ "" := by
  rw [pgraftParseInitialCluster_eq, mapM_eq_ok] at hp
  refine forall_mem_of_forall₂ hp fun t ht m hm => ?_
  obtain ⟨name, url, hn, -, hpm⟩ := parseMemberToken_of_memberToken ht (hg.members t ht)
  rw [hpm, Except.ok.injEq] at hm
  subst hm
  exact fun e => hn (congrArg String.data e)

/-- Every configuration the checks build is well formed, and its members are those of
`initial_cluster`, in order, with their peer URLs parsed. -/
theorem initConfig_wf {g : Gucs} {c : GoConfig} (h : initConfig g = .ok c) :
    c.Wf ∧ ∃ ms, pgraftParseInitialCluster g.initialCluster = .ok ms ∧
      ms.mapM goMember = .ok c.clusterMembers := by
  obtain ⟨ms, hp, hne, gms, hg, host, port, hu, ht, hh, hp1, hp2, hv, rfl⟩ := initConfig_eq_ok.1 h
  have hc := (validate_iff_checked g).1 hv
  have hf := mapM_eq_ok.1 hg
  have hgm : ∀ gm ∈ gms, gm.name ≠ "" ∧ ':' ∉ gm.peerHost.data ∧
      1 ≤ gm.peerPort ∧ gm.peerPort ≤ 65535 :=
    forall_mem_of_forall₂ hf fun m hm gm hgm => by
      obtain ⟨h', p', hu', rfl⟩ := goMember_eq_ok.1 hgm
      exact ⟨parsed_member_name hc hp m hm, pgraftParseUrl_eq_ok hu'⟩
  refine ⟨⟨?_, ?_, ?_, ?_, ⟨hh, (pgraftParseUrl_eq_ok hu).1⟩, ⟨hp1, hp2⟩, ⟨rfl, rfl⟩, ht, rfl,
    hc.heartbeat, hc.election, hc.snapshot, hc.maxLogEntries⟩, ms, hp, hg⟩
  · rintro (rfl : gms = [])
    cases hf
    exact hne rfl
  · exact fun gm h' => (hgm gm h').1
  · exact fun gm h' => (hgm gm h').2.1
  · exact fun gm h' => (hgm gm h').2.2

/-! ## The documented format -/

/-- The token of a member in the documented format, `name=url`. -/
def renderMember (m : ClusterMember) : List Char := m.name.data ++ '=' :: m.peerUrl.data

/-- A member list in the format `pgraft.initial_cluster` documents:
`member1=http://peer1:2380,member2=http://peer2:2380`. -/
def renderInitialCluster (ms : List ClusterMember) : String :=
  ⟨[','].intercalate (ms.map renderMember)⟩

/-- A member the format carries: no comma in either part, no `=` in the name, and neither part
starting with white space. -/
structure ClusterMember.Plain (m : ClusterMember) : Prop where
  name_comma : ',' ∉ m.name.data
  name_eq : '=' ∉ m.name.data
  url_comma : ',' ∉ m.peerUrl.data
  name_head : ∀ c ∈ m.name.data.head?, isspace c = false
  url_head : ∀ c ∈ m.peerUrl.data.head?, isspace c = false

theorem strtokR_intercalate {d : Char} {ts : List (List Char)} (hd : ∀ t ∈ ts, d ∉ t)
    (hne : ∀ t ∈ ts, t ≠ []) : strtokR d ([d].intercalate ts) = ts := by
  cases ts with
  | nil => rfl
  | cons t ts =>
    rw [strtokR, List.splitOn_intercalate _ _ hd (List.cons_ne_nil _ _),
      List.filter_eq_self.2 (by simpa using hne)]

theorem ClusterMember.Plain.head {m : ClusterMember} (hm : m.Plain) :
    ∀ c ∈ (renderMember m).head?, isspace c = false := by
  cases h : m.name.data with
  | nil => simp [renderMember, h]; decide
  | cons c cs => simpa [renderMember, h] using hm.name_head c (by simp [h])

theorem memberTokens_render {ms : List ClusterMember} (h : ∀ m ∈ ms, m.Plain) :
    memberTokens (renderInitialCluster ms) = ms.map renderMember := by
  have hne : ∀ t ∈ ms.map renderMember, t ≠ [] := by simp [renderMember]
  rw [memberTokens, renderInitialCluster, strtokR_intercalate _ hne, trimmedTokens,
    List.filter_eq_self.2, List.map_map]
  · exact List.map_congr_left fun m hm => dropWhile_isspace_of_head (h m hm).head
  · simp only [List.mem_map, decide_eq_true_eq]
    rintro _ ⟨_, ⟨m, hm, rfl⟩, rfl⟩
    rw [dropWhile_isspace_of_head (h m hm).head]
    simp [renderMember]
  · simp only [List.mem_map]
    rintro _ ⟨m, hm, rfl⟩
    simpa [renderMember] using ⟨(h m hm).name_comma, (h m hm).url_comma⟩

/-- A member list written in the documented format reads back as itself. -/
theorem parse_render_initial_cluster {ms : List ClusterMember} (h : ∀ m ∈ ms, m.Plain) :
    pgraftParseInitialCluster (renderInitialCluster ms) = .ok ms := by
  rw [pgraftParseInitialCluster_eq, memberTokens_render h, mapM_eq_ok, List.forall₂_map_left_iff]
  refine List.forall₂_same.2 fun m hm => ?_
  rw [renderMember, parseMemberToken_sep (h m hm).name_eq,
    dropWhile_isspace_of_head (h m hm).name_head, dropWhile_isspace_of_head (h m hm).url_head]

/-- A member as an operator writes it: a name and a peer URL `scheme://host:port`. -/
structure MemberSpec where
  name : String
  scheme : String
  host : String
  port : Int

/-- The peer URL `scheme://host:port`. -/
def MemberSpec.url (s : MemberSpec) : String :=
  ⟨s.scheme.data ++ s.host.data ++ ':' :: (toString s.port).data⟩

/-- The member of `initial_cluster` the spec is written as. -/
def MemberSpec.member (s : MemberSpec) : ClusterMember := ⟨s.name, s.url⟩

/-- The member of the configuration it stands for. -/
def MemberSpec.goMember (s : MemberSpec) : GoMember := ⟨s.name, s.host, s.port⟩

/-- A spec the format carries and the checks accept: a name without a comma, a `=` or leading
white space; the scheme `http://` or `https://`; a host without a colon or a comma; a port in
`1 .. 65535`. -/
structure MemberSpec.Ok (s : MemberSpec) : Prop where
  name_ne : s.name ≠ ""
  name_comma : ',' ∉ s.name.data
  name_eq : '=' ∉ s.name.data
  name_head : ∀ c ∈ s.name.data.head?, isspace c = false
  scheme : s.scheme = "http://" ∨ s.scheme = "https://"
  host_colon : ':' ∉ s.host.data
  host_comma : ',' ∉ s.host.data
  port : 1 ≤ s.port ∧ s.port ≤ 65535

theorem MemberSpec.Ok.plain {s : MemberSpec} (hs : s.Ok) : s.member.Plain where
  name_comma := hs.name_comma
  name_eq := hs.name_eq
  url_comma := by
    have hd := (toString_int_chars s.port).2
    simp only [MemberSpec.member, MemberSpec.url, List.mem_append, List.mem_cons, not_or]
    refine ⟨⟨by rcases hs.scheme with h | h <;> (rw [h]; decide), hs.host_comma⟩, by decide,
      fun hc => ?_⟩
    rcases hd _ hc with h | h
    · exact absurd h (by decide)
    · exact absurd h (by decide)
  name_head := hs.name_head
  url_head := by rcases hs.scheme with h | h <;> simp [MemberSpec.member, MemberSpec.url, h, isspace]

theorem MemberSpec.Ok.memberToken {s : MemberSpec} (hs : s.Ok) : MemberToken (renderMember s.member) :=
  ⟨s.name.data, s.url.data, rfl, hs.name_eq, fun e => hs.name_ne (congrArg String.mk e),
    by
      rcases hs.scheme with h | h <;> simp only [MemberSpec.url, h, List.append_assoc]
      exacts [.inl (List.prefix_append _ _).isInfix, .inr (List.prefix_append _ _).isInfix]⟩

theorem MemberSpec.Ok.goMember_member {s : MemberSpec} (hs : s.Ok) :
    Pgraft.goMember s.member = .ok s.goMember := by
  rw [Pgraft.goMember, MemberSpec.member, MemberSpec.url,
    pgraftParseUrl_of_scheme hs.scheme hs.host_colon hs.port]
  rfl

/-- Settings written in the documented format, whose integer settings `SET` admitted, are
accepted, and the configuration handed over holds exactly the members and the listen address
written. -/
theorem init_config_of_documented {g : Gucs} {specs : List MemberSpec} {scheme host : String}
    {port : Int} (hs : ∀ s ∈ specs, s.Ok) (hne : specs ≠ [])
    (hc : g.initialCluster = renderInitialCluster (specs.map (·.member)))
    (hl : g.listenPeerUrls = ⟨scheme.data ++ host.data ++ ':' :: (toString port).data⟩)
    (hls : scheme = "http://" ∨ scheme = "https://") (hlh : host ≠ "" ∧ ':' ∉ host.data)
    (hlp : 1024 ≤ port ∧ port ≤ 65535) (ht : g.initialClusterToken ≠ "")
    (hst : g.initialClusterState = "" ∨ g.initialClusterState = "new" ∨
      g.initialClusterState = "existing") (hb : g.InBounds) :
    initConfig g = .ok (goConfigOf g (specs.map (·.goMember)) host port) := by
  have hplain : ∀ m ∈ specs.map (·.member), m.Plain := by
    simp only [List.mem_map]; rintro _ ⟨s, h, rfl⟩; exact (hs s h).plain
  have htok : memberTokens g.initialCluster = (specs.map (·.member)).map renderMember := by
    rw [hc, memberTokens_render hplain]
  have hr := hb.ranges
  have hchecked : g.Checked :=
    { token := ht
      listenPeerUrls := by rw [hl]; exact fun e => by simpa using congrArg String.data e
      members_ne_nil := by rw [htok]; simpa using hne
      members := by
        rw [htok]; simp only [List.map_map, List.mem_map]
        rintro _ ⟨s, h, rfl⟩; exact (hs s h).memberToken
      state := hst
      heartbeat := hr.1
      election := hr.2.1
      snapshot := hr.2.2.1
      maxLogEntries := hr.2.2.2 }
  refine initConfig_eq_ok.2 ⟨_, hc ▸ parse_render_initial_cluster hplain, by simpa using hne, _,
    ?_, host, port, hl ▸ pgraftParseUrl_of_scheme hls hlh.2 ⟨by omega, by omega⟩, ht, hlh.1,
    hlp.1, hlp.2, (validate_iff_checked g).2 hchecked, rfl⟩
  rw [mapM_eq_ok, List.forall₂_map_left_iff, List.forall₂_map_right_iff]
  exact List.forall₂_same.2 fun s h => (hs s h).goMember_member

/-- The boot values are written in the documented format. -/
theorem init_config_of_documented_defaults :
    let spec : MemberSpec := ⟨"default", "http://", "localhost", 2380⟩
    ((∀ s ∈ [spec], s.Ok) ∧ [spec] ≠ [] ∧
      Gucs.default.initialCluster = renderInitialCluster ([spec].map (·.member)) ∧
      Gucs.default.listenPeerUrls =
        ⟨"http://".data ++ "localhost".data ++ ':' :: (toString (2380 : Int)).data⟩ ∧
      Gucs.default.initialClusterToken ≠ "" ∧ Gucs.default.InBounds) ∧
    initConfig Gucs.default = .ok (goConfigOf Gucs.default ([spec].map (·.goMember))
      "localhost" 2380) := by
  intro spec
  have hs : ∀ s ∈ [spec], s.Ok := by
    simp only [List.mem_singleton, forall_eq]
    exact ⟨by decide, by decide, by decide, by decide, .inl rfl, by decide, by decide, by decide⟩
  have hc : Gucs.default.initialCluster = renderInitialCluster ([spec].map (·.member)) := by decide
  have hl : Gucs.default.listenPeerUrls =
      ⟨"http://".data ++ "localhost".data ++ ':' :: (toString (2380 : Int)).data⟩ := by decide
  have hb : Gucs.default.InBounds := by decide
  exact ⟨⟨hs, by simp, hc, hl, by decide, hb⟩, init_config_of_documented hs (by simp) hc hl
    (.inl rfl) (by decide) (by decide) (by decide) (.inr (.inl rfl)) hb⟩

/-! ## Optional URLs -/

theorem pgraftParseUrl_eq_badPort {url : String} {p : Int} (h : pgraftParseUrl url = .badPort p) :
    url ≠ "" ∧ (p ≤ 0 ∨ 65535 < p) := by
  unfold pgraftParseUrl at h
  split at h
  · cases h
  next hu =>
    refine ⟨hu, ?_⟩
    dsimp only at h
    split at h
    · cases h
    · split at h
      · cases h; assumption
      · cases h

/-- An optional URL whose port `pgraft_parse_url` rejects leaves the freed host, and the
rejected port, in the configuration. -/
theorem optionalUrl_of_badPort {url : String} {p : Int} (h : pgraftParseUrl url = .badPort p) :
    optionalUrl url = (.freed, p) := by
  rw [optionalUrl, if_neg (pgraftParseUrl_eq_badPort h).1, h]
  rfl

/-- The three optional URLs reach nothing but their own fields: with any values for them, the
checks give what they give without them, with only those fields of the configuration
changed. -/
theorem initConfig_optional_urls (g : Gucs) (u v w : String) :
    initConfig
        { g with listenClientUrls := u, advertiseClientUrls := v, initialAdvertisePeerUrls := w } =
      (initConfig g).map fun c =>
        { c with
          listenClient := optionalUrl u
          advertiseClient := optionalUrl v
          initialAdvertisePeer := optionalUrl w } := by
  have hv : pgraftValidateConfiguration
      { g with listenClientUrls := u, advertiseClientUrls := v, initialAdvertisePeerUrls := w } =
      pgraftValidateConfiguration g := rfl
  unfold initConfig
  rcases pgraftParseInitialCluster g.initialCluster with m | ms
  · rfl
  simp only [bind, Except.bind]
  split_ifs
  · rfl
  all_goals
    rcases ms.mapM goMember with m | gms
    · rfl
    dsimp only
    cases pgraftParseUrl g.listenPeerUrls with
    | ok host port =>
      dsimp only
      repeat' split_ifs
      all_goals first | rfl | (rw [hv]; cases pgraftValidateConfiguration g <;> rfl)
    | badPort _ => rfl
    | noPort => rfl

end Pgraft

import ClusterAgent.Proofs.Storage.Files
import ClusterAgent.Proofs.Token.Storage
import ClusterAgent.Token.Bundle

/-! Bundles of tokens: of the tokens that share an identifier the last is kept, at the place of the
first. A bundle that is read back and bundled again stays as it is. -/
namespace ClusterAgent

theorem Alias.ofString_beq (s u : String) : (Alias.ofString s == Alias.ofString u) = (s == u) := rfl

namespace Credentials

/-- The credentials have one entry for each identifier of the tokens, in order of first occurrence,
and in it the last token of that identifier. -/
structure Merges (c : Credentials) (tokens : List Token) : Prop where
  aliases_eq : Table.keys c = (tokens.map (·.identifier)).eraseDups.map .ofString
  last : ∀ a t, (a, t) ∈ c → a = .ofString t.identifier ∧ ∃ before after,
    tokens = before ++ t :: after ∧ ∀ u ∈ after, u.identifier ≠ t.identifier

/-- The tokens fit into a file. -/
structure Fit (tokens : List Token) : Prop where
  storable : ∀ t ∈ tokens, t.Storable
  few : (tokens.map (·.identifier)).eraseDups.length < 0x100000000

/-! ### Merging -/

/-- The tokens under their identifiers. -/
def byIdentifier (tokens : List Token) : Table String Token :=
  Table.ofPairs (tokens.map fun t => (t.identifier, t))

theorem addAll_empty (tokens : List Token) :
    empty.addAll tokens = (byIdentifier tokens).map fun p => (.ofString p.1, p.2) := by
  induction tokens using List.reverseRecOn with
  | nil => rfl
  | append_singleton tokens t ih =>
    have hadd : empty.addAll (tokens ++ [t]) =
        Table.insert (empty.addAll tokens) (.ofString t.identifier) t := by
      simp [addAll, add]
    have hinsert : byIdentifier (tokens ++ [t]) = (byIdentifier tokens).insert t.identifier t := by
      simp [byIdentifier, Table.ofPairs]
    rw [hadd, hinsert, ih, Table.insert_map Alias.ofString_beq]

theorem addAll_append (c : Credentials) (tokens more : List Token) :
    (c.addAll tokens).addAll more = c.addAll (tokens ++ more) := by
  unfold addAll
  rw [List.foldl_append]

theorem distinct_addAll (tokens : List Token) : Table.Distinct (empty.addAll tokens) := by
  rw [addAll_empty]
  exact (Table.distinct_ofPairs _).map _ fun p q h => (Alias.ofString_beq p.1 q.1).trans h

theorem keys_byIdentifier (tokens : List Token) :
    (byIdentifier tokens).keys = (tokens.map (·.identifier)).eraseDups := by
  unfold byIdentifier
  rw [Table.keys_ofPairs, List.map_map]
  rfl

theorem mem_byIdentifier {tokens : List Token} {identifier : String} {t : Token}
    (h : (identifier, t) ∈ byIdentifier tokens) : identifier = t.identifier ∧ ∃ before after,
      tokens = before ++ t :: after ∧ ∀ u ∈ after, u.identifier ≠ t.identifier := by
  obtain ⟨before, after, hpairs, hafter⟩ := Table.mem_ofPairs h
  obtain ⟨before', rest, rfl, rfl, hrest⟩ := List.map_eq_append_iff.mp hpairs
  obtain ⟨t', after', rfl, ht, rfl⟩ := List.map_eq_cons_iff.mp hrest
  obtain ⟨rfl, rfl⟩ := Prod.mk.inj ht
  exact ⟨rfl, before', after', rfl, fun u hu => hafter _ (List.mem_map_of_mem hu)⟩

theorem merges_addAll (tokens : List Token) : Merges (empty.addAll tokens) tokens where
  aliases_eq := by
    rw [addAll_empty, ← keys_byIdentifier]
    simp [Table.keys]
  last a t h := by
    rw [addAll_empty] at h
    obtain ⟨⟨identifier, t'⟩, hmem, heq⟩ := List.mem_map.mp h
    obtain ⟨rfl, rfl⟩ := Prod.mk.inj heq
    obtain ⟨rfl, hlast⟩ := mem_byIdentifier hmem
    exact ⟨rfl, hlast⟩

theorem storable_addAll {tokens : List Token} (h : Fit tokens) :
    (empty.addAll tokens).Storable := by
  have hmerges := merges_addAll tokens
  constructor
  · have hlength : (empty.addAll tokens).length = (tokens.map (·.identifier)).eraseDups.length := by
      rw [← List.length_map Alias.ofString, ← hmerges.aliases_eq, Table.keys, List.length_map]
    rw [hlength]
    exact h.few
  · rintro ⟨a, t⟩ hp
    obtain ⟨rfl, before, after, rfl, -⟩ := hmerges.last a t hp
    have ht : t.Storable := h.storable t (by simp)
    exact ⟨ht.1, ht⟩

/-- Tokens that are merged once more, under the tokens that came first, stay as they are. -/
theorem addAll_tokens (first more : List Token) :
    empty.addAll (first ++ (empty.addAll (first ++ more)).tokens) =
      empty.addAll (first ++ more) := by
  have htokens : (empty.addAll (first ++ more)).tokens = (byIdentifier (first ++ more)).values := by
    rw [addAll_empty]
    simp [tokens, Table.values]
  have hpairs : (byIdentifier (first ++ more)).values.map (fun t => (t.identifier, t)) =
      byIdentifier (first ++ more) := by
    rw [Table.values, List.map_map]
    refine (List.map_congr_left ?_).trans (List.map_id _)
    rintro ⟨identifier, t⟩ hp
    rw [(mem_byIdentifier hp).1]
    rfl
  have hprefix : (byIdentifier first).keys <+: (byIdentifier (first ++ more)).keys := by
    rw [keys_byIdentifier, keys_byIdentifier, List.map_append, List.eraseDups_append]
    exact List.prefix_append _ _
  have hdistinct : Table.Distinct ([] ++ byIdentifier (first ++ more)) := Table.distinct_ofPairs _
  have hfold := Table.foldl_insert_of_keys_prefix hdistinct hprefix
  rw [htokens, addAll_empty, addAll_empty]
  congr 1
  calc byIdentifier (first ++ (byIdentifier (first ++ more)).values)
      = (byIdentifier (first ++ more)).foldl (fun t p => t.insert p.1 p.2)
          (byIdentifier first) := by
        conv_rhs => rw [← hpairs]
        simp [byIdentifier, Table.ofPairs, List.foldl_append]
    _ = byIdentifier (first ++ more) := hfold

/-! ### Bundling -/

theorem run_forM_logInfo {ε α : Type} (message : α → String) (as : List α) (w : World) :
    (as.forM fun a => Action.logInfo (message a) : Action ε Unit).run w =
      (.ok (), { w with log := w.log ++ as.map fun a => ⟨.info, message a⟩ }) := by
  induction as generalizing w with
  | nil => simp
  | cons a as ih =>
    rw [List.forM, Action.run_bind_of_ok (Action.run_logInfo _ _), ih]
    simp

theorem run_bundle_of_error {service : TokenService} {paths : List String} {w w' : World}
    {e : CredentialError} (h : (service.obtain paths).run w = (.error e, w'))
    (userTokens : List Token) : (bundle service paths userTokens).run w = (.error e, w') :=
  Action.run_bind_of_error h _

/-- What is issued and what the user holds is merged, in this order. Bundling only logs. -/
theorem run_bundle_of_ok {service : TokenService} {paths : List String} {w w' : World}
    {issued : List Token} (h : (service.obtain paths).run w = (.ok issued, w'))
    (userTokens : List Token) : ∃ log, (bundle service paths userTokens).run w =
      ((TokenFile.write? (empty.addAll (issued ++ userTokens))).elim (.error .tooLarge) .ok,
        { w' with log }) := by
  unfold bundle
  rw [Action.run_bind_of_ok h, Action.run_bind_of_ok (run_forM_logInfo _ _ _), addAll_append]
  cases TokenFile.write? (empty.addAll (issued ++ userTokens)) with
  | none => exact ⟨_, rfl⟩
  | some bytes => exact ⟨_, rfl⟩

theorem run_bundle_eq_ok {service : TokenService} {paths : List String} {userTokens : List Token}
    {w w' : World} {bytes : List UInt8}
    (h : (bundle service paths userTokens).run w = (.ok bytes, w')) :
    ∃ issued w₁ log, (service.obtain paths).run w = (.ok issued, w₁) ∧
      TokenFile.write? (empty.addAll (issued ++ userTokens)) = some bytes ∧
      w' = { w₁ with log } := by
  cases hissue : (service.obtain paths).run w with
  | mk result w₁ =>
    cases result with
    | error e =>
      rw [run_bundle_of_error hissue] at h
      cases h
    | ok issued =>
      obtain ⟨log, hrun⟩ := run_bundle_of_ok hissue userTokens
      rw [hrun] at h
      cases hbytes : TokenFile.write? (empty.addAll (issued ++ userTokens)) with
      | none =>
        rw [hbytes] at h
        cases h
      | some bytes' =>
        rw [hbytes] at h
        cases h
        exact ⟨issued, w₁, log, rfl, hbytes, rfl⟩

theorem run_bundle_of_write? {service : TokenService} {paths : List String} {w w' : World}
    {issued userTokens : List Token} {bytes : List UInt8}
    (h : (service.obtain paths).run w = (.ok issued, w'))
    (hbytes : TokenFile.write? (empty.addAll (issued ++ userTokens)) = some bytes) :
    ((bundle service paths userTokens).run w).1 = .ok bytes := by
  obtain ⟨log, hrun⟩ := run_bundle_of_ok h userTokens
  rw [hrun, hbytes]
  rfl

/-- The tokens of a token file are held. -/
theorem run_held_of_read {file : String} (hfile : file ≠ "") {w : World} {bytes : List UInt8}
    {c : Credentials} (hread : (Files.read (.ofText file)).run w = (.ok bytes, w))
    (hbytes : TokenFile.read bytes = .ok c) : (held (some file)).run w = (.ok c.tokens, w) := by
  obtain ⟨hname, hcontent, -⟩ := Files.run_query_eq_ok.mp hread
  obtain ⟨key, modified, mode, hkey, hnode⟩ := FileTree.readFile_eq_ok.mp hcontent
  have hstat : (Files.stat (.ofText file)).run w = (.ok (.file bytes modified mode), w) :=
    Files.run_query_eq_ok.mpr ⟨hname, FileTree.stat_eq_ok.mpr ⟨key, hkey, hnode⟩, rfl⟩
  have hsome : (some file).filter (· != "") = some file := by simp [hfile]
  unfold held
  rw [hsome]
  dsimp only
  refine Action.run_bind_eq_ok.mpr ⟨true, w, ?_, ?_⟩
  · refine Action.run_mapFailure_eq_ok.mpr (Action.run_tryCatch_of_ok ?_ _)
    rw [Action.run_bind_of_ok hstat]
    rfl
  · rw [if_neg (by simp), Action.run_bind_of_ok (Action.run_mapFailure_eq_ok.mpr hread), hbytes]
    rfl

/-- When tokens are issued, they are merged with those of the user into one file; when they are not,
there is none. Bundling again with the tokens of that file changes nothing. -/
theorem bundle_merges (service : TokenService) (paths : List String) (userTokens : List Token)
    (w : World) :
    (∀ e w', (service.obtain paths).run w = (.error e, w') →
      (bundle service paths userTokens).run w = (.error e, w')) ∧
    ∀ issued w', (service.obtain paths).run w = (.ok issued, w') → Fit (issued ++ userTokens) →
      ∃ bytes c, ((bundle service paths userTokens).run w).1 = .ok bytes ∧
        TokenFile.read bytes = .ok c ∧ Merges c (issued ++ userTokens) ∧
        ∀ file w₁, file ≠ "" → (Files.read (.ofText file)).run w₁ = (.ok bytes, w₁) →
          ∃ tokens, (held (some file)).run w₁ = (.ok tokens, w₁) ∧
            ∀ service' paths' w₂ w₃, (service'.obtain paths').run w₂ = (.ok issued, w₃) →
              ((bundle service' paths' tokens).run w₂).1 = .ok bytes := by
  constructor
  · intro e w' h
    exact run_bundle_of_error h userTokens
  · intro issued w' h hfit
    have hsome := (TokenFile.isSome_write?_iff _).mpr (storable_addAll hfit)
    obtain ⟨bytes, hbytes⟩ := Option.isSome_iff_exists.mp hsome
    have hread := TokenFile.read_of_write? (distinct_addAll _) hbytes
    refine ⟨bytes, _, run_bundle_of_write? h hbytes, hread, merges_addAll _, ?_⟩
    intro file w₁ hfile hcontent
    refine ⟨_, run_held_of_read hfile hcontent hread, ?_⟩
    intro service' paths' w₂ w₃ h'
    apply run_bundle_of_write? h'
    rw [addAll_tokens, hbytes]

/-- Tokens of which two share an identifier. -/
def issuedTokens : List Token :=
  [⟨"a", [1], "k", "s"⟩, ⟨"b", [], "k", ""⟩, ⟨"a", [2], "k", "s"⟩]

/-- Tokens of which one takes the place of an issued one. -/
def heldTokens : List Token := [⟨"c", [3], "", "s"⟩, ⟨"b", [0xFF], "k", "t"⟩]

theorem bundle_merges_heldTokens :
    Fit (issuedTokens ++ heldTokens) ∧ ∃ bytes c,
      ((bundle (.fixed issuedTokens) [] heldTokens).run World.bare).1 = .ok bytes ∧
        TokenFile.read bytes = .ok c ∧ Merges c (issuedTokens ++ heldTokens) ∧
        ∃ w tokens, (Files.read (.ofText "/t")).run w = (.ok bytes, w) ∧
          (held (some "/t")).run w = (.ok tokens, w) ∧
          ((bundle (.fixed issuedTokens) [] tokens).run World.bare).1 = .ok bytes := by
  have hfit : Fit (issuedTokens ++ heldTokens) := ⟨by decide, by decide⟩
  obtain ⟨-, hmerges⟩ := bundle_merges (.fixed issuedTokens) [] heldTokens World.bare
  obtain ⟨bytes, c, hbytes, hread, hc, hagain⟩ := hmerges issuedTokens _ rfl hfit
  have hfile : (Files.read (.ofText "/t")).run
      { World.bare with files := [(["t"], .file bytes 0 0o600)] } =
        (.ok bytes, { World.bare with files := [(["t"], .file bytes 0 0o600)] }) := rfl
  obtain ⟨tokens, htokens, hsame⟩ := hagain "/t" _ (by decide) hfile
  exact ⟨hfit, bytes, c, hbytes, hread, hc, _, tokens, hfile, htokens,
    hsame (.fixed issuedTokens) [] World.bare _ rfl⟩

end Credentials
end ClusterAgent

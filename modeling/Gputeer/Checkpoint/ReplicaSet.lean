import Gputeer.Checkpoint.Replicas
import Gputeer.Lib.Table

/-! The older count of replicas: one entry for each failure domain, and the entry that was added last stands. -/

namespace Gputeer.Checkpoint

/-- Under each failure domain: the device, whether it is ephemeral, and whether its signature is valid. -/
structure ReplicaSet where
  entries : Table String (String × Bool × Bool)

namespace ReplicaSet

def new : ReplicaSet := ⟨∅⟩

def add (set : ReplicaSet) (failureDomain deviceId : String) (isEphemeral signatureValid : Bool) : ReplicaSet :=
  ⟨set.entries.insert failureDomain (deviceId, isEphemeral, signatureValid)⟩

def effectiveCount (set : ReplicaSet) : UInt32 :=
  .ofNat (set.entries.rows.filter fun (_, isEphemeral, signatureValid) => signatureValid && !isEphemeral).length

end ReplicaSet

/-- The arguments of one call of `add`. -/
structure ReplicaAdd where
  failureDomain : String
  deviceId : String
  isEphemeral : Bool
  signatureValid : Bool
  deriving DecidableEq

namespace ReplicaAdd

def counts (replica : ReplicaAdd) : Bool := replica.signatureValid && !replica.isEphemeral

def addTo (set : ReplicaSet) (replica : ReplicaAdd) : ReplicaSet :=
  set.add replica.failureDomain replica.deviceId replica.isEphemeral replica.signatureValid

end ReplicaAdd

/-- The set after these calls. -/
def ReplicaSet.ofAdds (adds : List ReplicaAdd) : ReplicaSet := adds.foldl ReplicaAdd.addTo .new

/-- The failure domains with a replica that counts. -/
def goodDomains (adds : List ReplicaAdd) : Finset String :=
  ((adds.filter (·.counts)).map (·.failureDomain)).toFinset

/-- What these calls tell is never lost: in any order they give one count, no call takes from the count, and
it is the count of the failure domains with a replica that counts. -/
structure LosesNothing (adds : List ReplicaAdd) : Prop where
  orderFree : ∀ others, adds.Perm others →
    (ReplicaSet.ofAdds others).effectiveCount = (ReplicaSet.ofAdds adds).effectiveCount
  grows : ∀ before replica after, adds = before ++ replica :: after →
    (ReplicaSet.ofAdds before).effectiveCount ≤ (ReplicaSet.ofAdds (before ++ [replica])).effectiveCount
  counts : (ReplicaSet.ofAdds adds).effectiveCount.toNat = (goodDomains adds).card

/-- No failure domain was told to have both a replica that counts and one that does not. -/
def Unmixed (adds : List ReplicaAdd) : Prop :=
  ∀ one ∈ adds, ∀ other ∈ adds, one.failureDomain = other.failureDomain → one.counts = other.counts

theorem Unmixed.of_subset {adds others : List ReplicaAdd} (unmixed : Unmixed adds) (among : others ⊆ adds) :
    Unmixed others :=
  fun one listed other alsoListed => unmixed one (among listed) other (among alsoListed)

namespace ReplicaSet

variable {set : ReplicaSet} {adds others : List ReplicaAdd} {replica : ReplicaAdd} {domain : String}

/-- The failure domains whose entry counts. -/
def standing (set : ReplicaSet) : Finset String :=
  ((set.entries.toList.filter fun entry => entry.2.2.2 && !entry.2.2.1).map Prod.fst).toFinset

theorem mem_standing : domain ∈ set.standing ↔
    ∃ entry, set.entries[domain]? = some entry ∧ (entry.2.2 && !entry.2.1) = true := by
  simp only [standing, List.mem_toFinset, List.mem_map, List.mem_filter]
  constructor
  · rintro ⟨⟨listed, entry⟩, ⟨inside, good⟩, rfl⟩
    exact ⟨entry, Table.mem_toList.mp inside, good⟩
  · rintro ⟨entry, found, good⟩
    exact ⟨(domain, entry), ⟨Table.mem_toList.mpr found, good⟩, rfl⟩

theorem effectiveCount_eq : set.effectiveCount = .ofNat set.standing.card := by
  have distinct : ((set.entries.toList.filter fun entry => entry.2.2.2 && !entry.2.2.1).map Prod.fst).Nodup :=
    (OrderedMap.nodup_keys_toList set.entries).sublist (List.filter_sublist.map Prod.fst)
  rw [effectiveCount, standing, List.toFinset_card_of_nodup distinct, Table.rows, List.filter_map,
    List.length_map, List.length_map]
  rfl

/-- The last word about a failure domain stands. -/
theorem standing_addTo : (replica.addTo set).standing =
    if replica.counts then insert replica.failureDomain set.standing
    else set.standing.erase replica.failureDomain := by
  ext domain
  have lookup : (replica.addTo set).entries[domain]? = if replica.failureDomain = domain then
      some (replica.deviceId, replica.isEphemeral, replica.signatureValid) else set.entries[domain]? :=
    Table.lookup_insert
  rw [mem_standing, lookup]
  by_cases same : replica.failureDomain = domain
  · subst same
    rw [if_pos rfl]
    by_cases good : replica.counts = true
    · rw [if_pos good]
      exact iff_of_true ⟨_, rfl, good⟩ (Finset.mem_insert_self _ _)
    · rw [if_neg good]
      refine iff_of_false ?_ (Finset.notMem_erase _ _)
      rintro ⟨entry, found, counted⟩
      rw [Option.some.injEq] at found
      subst found
      exact good counted
  · rw [if_neg same, ← mem_standing]
    by_cases good : replica.counts = true
    · simp [good, Ne.symm same]
    · simp [good, Ne.symm same]

@[simp] theorem ofAdds_snoc : ofAdds (adds ++ [replica]) = replica.addTo (ofAdds adds) := by
  simp [ofAdds]

theorem mem_goodDomains : domain ∈ goodDomains adds ↔
    ∃ replica ∈ adds, replica.counts = true ∧ replica.failureDomain = domain := by
  simp [goodDomains, and_assoc]

theorem standing_new : new.standing = ∅ := by
  apply Finset.eq_empty_of_forall_notMem
  intro domain standing
  obtain ⟨entry, found, _⟩ := mem_standing.mp standing
  simp [new] at found

/-- With no domain in two minds, the last word about a domain is any word about it. -/
theorem standing_ofAdds (unmixed : Unmixed adds) : (ofAdds adds).standing = goodDomains adds := by
  induction adds using List.reverseRecOn with
  | nil => exact standing_new
  | append_singleton adds replica ih =>
      rw [ofAdds_snoc, standing_addTo, ih (unmixed.of_subset (List.subset_append_left _ _))]
      ext domain
      by_cases good : replica.counts = true
      · rw [if_pos good, Finset.mem_insert, mem_goodDomains, mem_goodDomains]
        constructor
        · rintro (rfl | ⟨other, listed, both⟩)
          · exact ⟨replica, List.mem_append_right _ List.mem_cons_self, good, rfl⟩
          · exact ⟨other, List.mem_append_left _ listed, both⟩
        · rintro ⟨other, listed, counted, same⟩
          rcases List.mem_append.mp listed with earlier | last
          · exact Or.inr ⟨other, earlier, counted, same⟩
          · obtain rfl := List.mem_singleton.mp last
            exact Or.inl same.symm
      · have silent : ¬ ∃ other ∈ adds, other.counts = true ∧ other.failureDomain = replica.failureDomain := by
          rintro ⟨other, listed, counted, same⟩
          have agree := unmixed other (List.mem_append_left _ listed) replica
            (List.mem_append_right _ List.mem_cons_self) same
          exact good (agree ▸ counted)
        rw [if_neg good, Finset.mem_erase, mem_goodDomains, mem_goodDomains]
        constructor
        · rintro ⟨_, other, listed, counted, same⟩
          exact ⟨other, List.mem_append_left _ listed, counted, same⟩
        · rintro ⟨other, listed, counted, same⟩
          rcases List.mem_append.mp listed with earlier | last
          · refine ⟨?_, other, earlier, counted, same⟩
            rintro rfl
            exact silent ⟨other, earlier, counted, same⟩
          · obtain rfl := List.mem_singleton.mp last
            exact absurd counted good

theorem effectiveCount_ofAdds (unmixed : Unmixed adds) :
    (ofAdds adds).effectiveCount = .ofNat (goodDomains adds).card := by
  rw [effectiveCount_eq, standing_ofAdds unmixed]

theorem goodDomains_mono (among : others ⊆ adds) : goodDomains others ⊆ goodDomains adds := by
  intro domain inside
  obtain ⟨replica, listed, good⟩ := mem_goodDomains.mp inside
  exact mem_goodDomains.mpr ⟨replica, among listed, good⟩

theorem losesNothing_of_unmixed (unmixed : Unmixed adds) (few : (goodDomains adds).card < 2 ^ 32) :
    LosesNothing adds := by
  constructor
  · intro others same
    have domains : goodDomains others = goodDomains adds :=
      (goodDomains_mono same.symm.subset).antisymm (goodDomains_mono same.subset)
    rw [effectiveCount_ofAdds unmixed, effectiveCount_ofAdds (unmixed.of_subset same.symm.subset), domains]
  · rintro before replica after rfl
    have some_ : before ++ [replica] ⊆ before ++ replica :: after := by simp
    have fewer : before ⊆ before ++ [replica] := List.subset_append_left _ _
    have count := Finset.card_le_card (goodDomains_mono some_)
    have fewerCount := Finset.card_le_card (goodDomains_mono fewer)
    rw [effectiveCount_ofAdds (unmixed.of_subset some_),
      effectiveCount_ofAdds (unmixed.of_subset (List.Subset.trans fewer some_)), UInt32.le_iff_toNat_le,
      UInt32.toNat_ofNat_of_lt' ((fewerCount.trans count).trans_lt few), UInt32.toNat_ofNat_of_lt' (count.trans_lt few)]
    exact fewerCount
  · rw [effectiveCount_ofAdds unmixed, UInt32.toNat_ofNat_of_lt' few]

/-- The two orders of two words about one domain differ by one, also where the count wraps. -/
theorem not_losesNothing_of_mixed {one other : ReplicaAdd} (listed : one ∈ adds) (alsoListed : other ∈ adds)
    (same : one.failureDomain = other.failureDomain) (good : one.counts = true) (bad : other.counts = false) :
    ¬ LosesNothing adds := by
  intro losesNothing
  have different : other ≠ one := fun eq => by simp [eq, good] at bad
  have firstOrder : adds.Perm ((adds.erase one).erase other ++ [other, one]) := by
    have last : adds.Perm ((adds.erase one) ++ [one]) :=
      (List.perm_cons_erase listed).trans (List.perm_append_singleton _ _).symm
    have inside : other ∈ adds.erase one := (List.mem_erase_of_ne different).mpr alsoListed
    have before : (adds.erase one).Perm ((adds.erase one).erase other ++ [other]) :=
      (List.perm_cons_erase inside).trans (List.perm_append_singleton _ _).symm
    simpa using last.trans (before.append_right [one])
  have secondOrder : adds.Perm ((adds.erase one).erase other ++ [one, other]) :=
    firstOrder.trans ((List.Perm.swap one other []).append_left _)
  have counts := (losesNothing.orderFree _ firstOrder).trans (losesNothing.orderFree _ secondOrder).symm
  generalize (adds.erase one).erase other = rest at counts
  have goodLast : ofAdds (rest ++ [other, one]) = one.addTo (other.addTo (ofAdds rest)) := by simp [ofAdds]
  have badLast : ofAdds (rest ++ [one, other]) = other.addTo (one.addTo (ofAdds rest)) := by simp [ofAdds]
  rw [goodLast, badLast, effectiveCount_eq, effectiveCount_eq, standing_addTo, standing_addTo, standing_addTo,
    standing_addTo, if_pos good, if_neg (by simp [bad]), if_neg (by simp [bad]), if_pos good, same,
    Finset.erase_insert_eq_erase, Finset.card_insert_of_notMem (Finset.notMem_erase _ _)] at counts
  generalize ((ofAdds rest).standing.erase other.failureDomain).card = card at counts
  have wrapped := congrArg UInt32.toNat counts
  simp only [UInt32.toNat_ofNat'] at wrapped
  omega

/-- Nothing is lost exactly when no failure domain was told to have both a replica that counts and one that
does not, and the count does not wrap. -/
theorem loses_nothing_iff : LosesNothing adds ↔ Unmixed adds ∧ (goodDomains adds).card < 2 ^ 32 := by
  constructor
  · intro losesNothing
    refine ⟨?_, losesNothing.counts ▸ UInt32.toNat_lt _⟩
    intro one listed other alsoListed same
    cases good : one.counts with
    | true =>
        cases bad : other.counts with
        | true => rfl
        | false => exact absurd losesNothing (not_losesNothing_of_mixed listed alsoListed same good bad)
    | false =>
        cases alsoGood : other.counts with
        | true => exact absurd losesNothing (not_losesNothing_of_mixed alsoListed listed same.symm alsoGood good)
        | false => rfl
  · rintro ⟨unmixed, few⟩
    exact losesNothing_of_unmixed unmixed few

/-- A replica that counts is forgotten when another device of its domain turns out to be ephemeral. -/
theorem forgets_the_replica_before :
    ¬ LosesNothing [⟨"dc-a", "dev-1", false, true⟩, ⟨"dc-a", "runpod-1", true, true⟩] := by
  intro losesNothing
  have counted := losesNothing.counts
  revert counted
  decide +kernel

end ReplicaSet

end Gputeer.Checkpoint

import Logbook.Proofs.Search.Body
import Logbook.Proofs.Search.Refusal

/-!
# The pages of a log

A page of a log is a part of the list of hits: as many as its size, behind those of the pages
before it. `AsksFor` reads off a body which hits it asks for.

* `asksFor_toBody_iff`: the hits that a search asks for, by what it passes over and what it wants.
* `ofQuery_logs_eq_ok_iff`: when a page is accepted, and what its search passes over then.
* `log_pages_tile_hits`: pages that begin within the first `2 ^ 32` hits lie side by side. Those
  that would begin later all begin at the last of these hits (`late_log_pages_overlap`).
-/

set_option autoImplicit false

namespace Logbook

/-- A body asks for the hit at a position, counted from zero: for as many hits as `size` says,
behind as many as `from` says, or from the first one on where there is no `from`. -/
def AsksFor (body : Json) (position : Nat) : Prop :=
  ∃ first size : Nat, (body.field? "from").getD (.int 0) = .int first ∧
    body.field? "size" = some (.int size) ∧ first ≤ position ∧ position < first + size

namespace Search

/-! ## The hits that a search asks for -/

section
variable (search : Search)

theorem field?_toBody (key : String) : search.toBody.field? key = search.bodyFields.lookup key := by
  rw [toBody_eq]
  exact Json.lookup_orderFields search.nodup_keys_bodyFields key

theorem lookup_size : search.bodyFields.lookup "size" = some (.int search.size.toNat) := by
  simp [bodyFields]

theorem getD_skip? : (search.skip?.map fun skip : UInt32 => Json.int skip.toNat).getD (.int 0) =
    .int search.skip.toNat := by
  unfold skip?
  split
  · rename_i hskip
    rw [hskip]
    rfl
  · rfl

/-- A search asks for the hits behind those that it passes over, as many as it wants. -/
theorem asksFor_toBody_iff {position : Nat} : AsksFor search.toBody position ↔
    search.skip.toNat ≤ position ∧ position < search.skip.toNat + search.size.toNat := by
  unfold AsksFor
  rw [field?_toBody, field?_toBody, lookup_from, lookup_size, getD_skip?]
  constructor
  · rintro ⟨first, size, hfirst, hsize, hlow, hhigh⟩
    obtain rfl := Int.ofNat.inj (Json.int.inj hfirst)
    obtain rfl := Int.ofNat.inj (Json.int.inj (Option.some.inj hsize))
    exact ⟨hlow, hhigh⟩
  · rintro ⟨hlow, hhigh⟩
    exact ⟨_, _, rfl, rfl, hlow, hhigh⟩

end

/-! ## The search of a page -/

theorem toNat_skipped (page size : UInt32) :
    (skipped page size).toNat = min ((page.toNat - 1) * size.toNat) (2 ^ 32 - 1) := by
  have hsmall : min ((page.toNat - 1) * size.toNat) (2 ^ 32 - 1) < 2 ^ 32 := by omega
  exact UInt32.toNat_ofNat_of_lt' hsmall

variable {scheme : PartitionScheme} {kind : DocumentKind} {filter : Filter} {page size : UInt32}

/-- A page is accepted where it has a number and a size and the time range is in order and has
partitions. -/
theorem ofQuery_logs_eq_ok_iff {search : Search} :
    ofQuery scheme kind ⟨filter, .logs page size⟩ = .ok search ↔
      (∀ range, filter.range = some range → range.start ≤ range.stop) ∧ page ≠ 0 ∧ size ≠ 0 ∧
        ∃ partitions, scheme.partitionsOf filter.range = .ok partitions ∧
          search = (ofFilter kind filter partitions none).paged (.logs page size) := by
  rw [ofQuery_eq_ok_iff]
  constructor
  · rintro ⟨hordered, partitions, aggregation, hpartitions, haggregation, rfl⟩
    obtain ⟨hpage, hsize, rfl⟩ := Question.logs_of_aggregation? haggregation
    exact ⟨hordered, hpage, hsize, partitions, hpartitions, rfl⟩
  · rintro ⟨hordered, hpage, hsize, partitions, hpartitions, rfl⟩
    refine ⟨hordered, partitions, none, hpartitions, ?_, rfl⟩
    simp only [Question.aggregation?, hpage, hsize, if_false]

/-- An accepted page asks for its size of hits, behind those that it passes over. -/
theorem asksFor_of_logs {search : Search}
    (h : ofQuery scheme kind ⟨filter, .logs page size⟩ = .ok search) {position : Nat} :
    AsksFor search.toBody position ↔
      min ((page.toNat - 1) * size.toNat) (2 ^ 32 - 1) ≤ position ∧
        position < min ((page.toNat - 1) * size.toNat) (2 ^ 32 - 1) + size.toNat := by
  obtain ⟨-, -, -, -, -, rfl⟩ := ofQuery_logs_eq_ok_iff.1 h
  rw [asksFor_toBody_iff, ← toNat_skipped]
  exact Iff.rfl

end Search

/-! ## Pages side by side -/

/-- The positions of a page are those that its size divides into the number of pages before it. -/
theorem mem_page_iff {page size position : Nat} (hpage : 0 < page) (hsize : 0 < size) :
    ((page - 1) * size ≤ position ∧ position < page * size) ↔ position / size = page - 1 := by
  obtain ⟨before, rfl⟩ := Nat.exists_eq_add_of_lt hpage
  rw [Nat.div_eq_iff hsize]
  simp only [Nat.zero_add, Nat.add_sub_cancel, Nat.add_mul]
  omega

section
variable {scheme : PartitionScheme} {kind : DocumentKind} {filter : Filter}
  {page next size : UInt32} {search following : Search}

/-- A page that begins within the first `2 ^ 32` hits asks for the hits that its size divides into
the number of pages before it. -/
theorem asksFor_iff_div_eq
    (h : Search.ofQuery scheme kind ⟨filter, .logs page size⟩ = .ok search)
    (hexact : (page.toNat - 1) * size.toNat < 2 ^ 32) {position : Nat} :
    AsksFor search.toBody position ↔ position / size.toNat = page.toNat - 1 := by
  obtain ⟨-, hpage, hsize, -⟩ := Search.ofQuery_logs_eq_ok_iff.1 h
  have hpage : 0 < page.toNat := Nat.pos_of_ne_zero fun hzero => hpage (UInt32.toNat_inj.1 hzero)
  have hsize : 0 < size.toNat := Nat.pos_of_ne_zero fun hzero => hsize (UInt32.toNat_inj.1 hzero)
  have hend : (page.toNat - 1) * size.toNat + size.toNat = page.toNat * size.toNat := by
    rw [← Nat.succ_mul, Nat.succ_eq_add_one, Nat.sub_add_cancel hpage]
  rw [Search.asksFor_of_logs h, Nat.min_eq_left (by omega), hend]
  exact mem_page_iff hpage hsize

/-- A page that would begin later begins at the last of the first `2 ^ 32` hits. -/
theorem asksFor_iff_of_late
    (h : Search.ofQuery scheme kind ⟨filter, .logs page size⟩ = .ok search)
    (hlate : 2 ^ 32 ≤ (page.toNat - 1) * size.toNat) {position : Nat} :
    AsksFor search.toBody position ↔
      2 ^ 32 - 1 ≤ position ∧ position < 2 ^ 32 - 1 + size.toNat := by
  rw [Search.asksFor_of_logs h, Nat.min_eq_right (by omega)]

/-- Where one page is accepted, each of the first hits but the last is asked for by one page. -/
theorem existsUnique_page
    (h : Search.ofQuery scheme kind ⟨filter, .logs page size⟩ = .ok search) {position : Nat}
    (hposition : position < 2 ^ 32 - 1) :
    ∃! number : UInt32, ∃ found,
      Search.ofQuery scheme kind ⟨filter, .logs number size⟩ = .ok found ∧
        AsksFor found.toBody position := by
  obtain ⟨hordered, -, hsize, partitions, hpartitions, -⟩ := Search.ofQuery_logs_eq_ok_iff.1 h
  have hbefore : position / size.toNat ≤ position := Nat.div_le_self _ _
  have hnumber : (UInt32.ofNat (position / size.toNat + 1)).toNat = position / size.toNat + 1 :=
    UInt32.toNat_ofNat_of_lt' (by simp only [UInt32.size]; omega)
  have hpos : UInt32.ofNat (position / size.toNat + 1) ≠ 0 := by
    intro hzero
    rw [hzero] at hnumber
    cases hnumber
  obtain ⟨found, hfound⟩ : ∃ found, Search.ofQuery scheme kind
      ⟨filter, .logs (.ofNat (position / size.toNat + 1)) size⟩ = .ok found :=
    ⟨_, Search.ofQuery_logs_eq_ok_iff.2 ⟨hordered, hpos, hsize, partitions, hpartitions, rfl⟩⟩
  refine ⟨_, ⟨found, hfound, (asksFor_iff_div_eq hfound ?_).2 ?_⟩, ?_⟩
  · rw [hnumber, Nat.add_sub_cancel]
    have := Nat.div_mul_le_self position size.toNat
    omega
  · rw [hnumber, Nat.add_sub_cancel]
  · rintro other ⟨found, hfound, hasked⟩
    obtain ⟨-, hother, -, -⟩ := Search.ofQuery_logs_eq_ok_iff.1 hfound
    refine UInt32.toNat_inj.1 ?_
    by_cases hexact : (other.toNat - 1) * size.toNat < 2 ^ 32
    · rw [asksFor_iff_div_eq hfound hexact] at hasked
      have hpos : other.toNat ≠ 0 := fun hzero => hother (UInt32.toNat_inj.1 hzero)
      omega
    · have hlate := (asksFor_iff_of_late hfound (Nat.le_of_not_lt hexact)).1 hasked
      omega

end

/-- **The pages of a log lie side by side.** Of two accepted pages of one size, one that begins
within the first `2 ^ 32` hits asks for the hits from `(page - 1) * size` on and before
`page * size`; one that would begin later asks for those from the last of the first `2 ^ 32` on.
Two different pages that begin within these hits share no hit, a page adjoins the next one, and each
of these hits but the last is asked for by one page and no other. -/
theorem log_pages_tile_hits {scheme : PartitionScheme} {kind : DocumentKind} {filter : Filter}
    {page other size : UInt32} {search search' : Search}
    (h : Search.ofQuery scheme kind ⟨filter, .logs page size⟩ = .ok search)
    (h' : Search.ofQuery scheme kind ⟨filter, .logs other size⟩ = .ok search') :
    ((page.toNat - 1) * size.toNat < 2 ^ 32 → ∀ position, AsksFor search.toBody position ↔
      (page.toNat - 1) * size.toNat ≤ position ∧ position < page.toNat * size.toNat) ∧
    (2 ^ 32 ≤ (page.toNat - 1) * size.toNat → ∀ position, AsksFor search.toBody position ↔
      2 ^ 32 - 1 ≤ position ∧ position < 2 ^ 32 - 1 + size.toNat) ∧
    (page ≠ other → (page.toNat - 1) * size.toNat < 2 ^ 32 →
      (other.toNat - 1) * size.toNat < 2 ^ 32 →
        ∀ position, ¬(AsksFor search.toBody position ∧ AsksFor search'.toBody position)) ∧
    (other.toNat = page.toNat + 1 → page.toNat * size.toNat < 2 ^ 32 →
      ∀ position, AsksFor search.toBody position ∨ AsksFor search'.toBody position ↔
        (page.toNat - 1) * size.toNat ≤ position ∧ position < other.toNat * size.toNat) ∧
    ∀ position < 2 ^ 32 - 1, ∃! number : UInt32, ∃ found,
      Search.ofQuery scheme kind ⟨filter, .logs number size⟩ = .ok found ∧
        AsksFor found.toBody position := by
  obtain ⟨-, hpage, hsize, -⟩ := Search.ofQuery_logs_eq_ok_iff.1 h
  obtain ⟨-, hother, -, -⟩ := Search.ofQuery_logs_eq_ok_iff.1 h'
  have hpage : 0 < page.toNat := Nat.pos_of_ne_zero fun hzero => hpage (UInt32.toNat_inj.1 hzero)
  have hother : 0 < other.toNat :=
    Nat.pos_of_ne_zero fun hzero => hother (UInt32.toNat_inj.1 hzero)
  have hsize : 0 < size.toNat := Nat.pos_of_ne_zero fun hzero => hsize (UInt32.toNat_inj.1 hzero)
  refine ⟨fun hexact position => ?window, fun hlate position => asksFor_iff_of_late h hlate,
    fun hne hexact hexact' position hboth => ?disjoint, fun hnext hexact position => ?adjoin,
    fun position => existsUnique_page h⟩
  case window => rw [asksFor_iff_div_eq h hexact, mem_page_iff hpage hsize]
  case disjoint =>
    have hdiv := (asksFor_iff_div_eq h hexact).1 hboth.1
    have hdiv' := (asksFor_iff_div_eq h' hexact').1 hboth.2
    exact hne (UInt32.toNat_inj.1 (by omega))
  case adjoin =>
    have hbegin : (page.toNat - 1) * size.toNat ≤ page.toNat * size.toNat :=
      Nat.mul_le_mul_right _ (Nat.sub_le _ _)
    have hend : page.toNat * size.toNat ≤ other.toNat * size.toNat :=
      Nat.mul_le_mul_right _ (by omega)
    have hbefore : other.toNat - 1 = page.toNat := by omega
    rw [asksFor_iff_div_eq h (by omega), asksFor_iff_div_eq h' (by rwa [hbefore]),
      ← mem_page_iff hpage hsize, ← mem_page_iff hother hsize, hbefore]
    omega

/-- The first two pages of fifty hits. -/
theorem first_log_pages_tile_hits :
    let page (number : UInt32) : Search := Search.paged
      (Search.ofFilter .log .all ["gravitee-*"] none) (.logs number 50)
    (∀ number, number ≠ 0 → Search.ofQuery ⟨"gravitee", .utc⟩ .log ⟨.all, .logs number 50⟩ =
      .ok (page number)) ∧
    (∀ position, AsksFor (page 1).toBody position ∨ AsksFor (page 2).toBody position ↔
      position < 100) ∧
    ¬(AsksFor (page 1).toBody 50 ∧ AsksFor (page 2).toBody 50) := by
  intro page
  have haccepted (number : UInt32) (hnumber : number ≠ 0) :
      Search.ofQuery ⟨"gravitee", .utc⟩ .log ⟨.all, .logs number 50⟩ = .ok (page number) :=
    Search.ofQuery_logs_eq_ok_iff.2 ⟨nofun, hnumber, by decide, _, rfl, rfl⟩
  obtain ⟨-, -, hdisjoint, hadjoin, -⟩ :=
    log_pages_tile_hits (haccepted 1 (by decide)) (haccepted 2 (by decide))
  refine ⟨haccepted, fun position => ?_, hdisjoint (by decide) (by decide) (by decide) 50⟩
  rw [hadjoin (by decide) (by decide)]
  exact and_iff_right (Nat.zero_le _)

/-- Two pages that would begin later ask for the same hit, which stands before either of them. -/
theorem late_log_pages_overlap :
    ∃ third fourth : Search,
      Search.ofQuery ⟨"gravitee", .utc⟩ .log ⟨.all, .logs 3 2147483648⟩ = .ok third ∧
      Search.ofQuery ⟨"gravitee", .utc⟩ .log ⟨.all, .logs 4 2147483648⟩ = .ok fourth ∧
      AsksFor third.toBody 4294967295 ∧ AsksFor fourth.toBody 4294967295 ∧
      ¬((3 - 1) * 2147483648 ≤ 4294967295) := by
  have haccepted (number : UInt32) (hnumber : number ≠ 0) :
      ∃ search, Search.ofQuery ⟨"gravitee", .utc⟩ .log ⟨.all, .logs number 2147483648⟩ =
        .ok search := ⟨_, Search.ofQuery_logs_eq_ok_iff.2 ⟨nofun, hnumber, by decide, _, rfl, rfl⟩⟩
  obtain ⟨third, hthird⟩ := haccepted 3 (by decide)
  obtain ⟨fourth, hfourth⟩ := haccepted 4 (by decide)
  refine ⟨third, fourth, hthird, hfourth, ?_, ?_, by decide⟩
  · exact (asksFor_iff_of_late hthird (by decide)).2 (by decide)
  · exact (asksFor_iff_of_late hfourth (by decide)).2 (by decide)

end Logbook

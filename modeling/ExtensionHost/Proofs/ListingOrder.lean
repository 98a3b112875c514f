import ExtensionHost.Proofs.Alike
import ExtensionHost.Proofs.Scan
import Mathlib.Data.List.Sort

/-!
# The order of listings

A folder may list its entries in any order. Stores with the same entries answer every
question in the same way but for that order, so the same contexts are loaded from them, and
a scan tells the same, in some order.
-/

namespace ExtensionHost

variable {tree tree' : FileTree} {layout : FolderLayout} {α β : Type}

/-! ## Stores with the same entries -/

/-- No place holds two entries. -/
def FileTree.IsPlaced (tree : FileTree) : Prop :=
  (tree.entries.map (·.1)).Nodup

instance (tree : FileTree) : Decidable tree.IsPlaced :=
  inferInstanceAs (Decidable (List.Nodup _))

theorem FileTree.isPlaced_empty (working : String) : (FileTree.empty working).IsPlaced :=
  List.nodup_nil

theorem FileTree.IsPlaced.filter {kept : Place × Entry → Bool} (ht : tree.IsPlaced) :
    { tree with entries := tree.entries.filter kept }.IsPlaced :=
  (List.filter_sublist.map _).nodup ht

theorem FileTree.IsPlaced.put {place : Place} {entry : Entry} (ht : tree.IsPlaced) :
    (tree.put place entry).IsPlaced := by
  have hkept :
      { tree with entries := tree.entries.filter fun e => decide (e.1 ≠ place) }.IsPlaced :=
    ht.filter
  simp only [IsPlaced, FileTree.put, List.map_append, List.map_singleton]
  refine List.nodup_append.mpr ⟨hkept, List.nodup_singleton place, ?_⟩
  intro other hother place' hplace' heq
  obtain ⟨e, he, rfl⟩ := List.mem_map.mp hother
  cases List.mem_singleton.mp hplace'
  simp [heq] at he

theorem FileTree.IsPlaced.enter {place : Place} {names : List String} (ht : tree.IsPlaced) :
    (tree.enter place names).1.IsPlaced := by
  induction names generalizing tree place with
  | nil => exact ht
  | cons name rest ih =>
    unfold FileTree.enter
    split
    · exact ih ht
    · exact ih ht.put

/-- What is written takes the place of what was there. -/
theorem FileTree.IsPlaced.write {p : Path} {entry : Entry} (ht : tree.IsPlaced) :
    (tree.write p entry).IsPlaced := by
  unfold FileTree.write
  split
  · exact ht.enter
  · exact ht.enter.put
  · exact ht

theorem FileTree.IsPlaced.delete {p : Path} (ht : tree.IsPlaced) : (tree.delete p).IsPlaced := by
  unfold FileTree.delete
  split
  · exact ht
  split
  · exact ht.filter
  · exact ht

/-- The stores have the same entries, each at one place, which may be listed in another
order. -/
structure FileTree.SameEntries (tree tree' : FileTree) : Prop where
  working : tree'.working = tree.working
  entries : tree.entries.Perm tree'.entries
  placed : tree.IsPlaced

/-- The store that lists its entries the other way round. -/
def FileTree.backwards (tree : FileTree) : FileTree :=
  { tree with entries := tree.entries.reverse }

theorem FileTree.IsPlaced.sameEntries_backwards (ht : tree.IsPlaced) :
    tree.SameEntries tree.backwards :=
  ⟨rfl, (List.reverse_perm _).symm, ht⟩

/-! ## Questions -/

/-- What is found in a table depends on the order of its entries only where keys repeat. -/
theorem lookup_eq_of_perm [BEq α] [LawfulBEq α] {l l' : List (α × β)} (hl : l.Perm l')
    (hkeys : (l.map (·.1)).Nodup) (key : α) : l.lookup key = l'.lookup key := by
  induction hl with
  | nil => rfl
  | cons entry _ ih => rw [List.lookup_cons, List.lookup_cons, ih (List.nodup_cons.mp hkeys).2]
  | swap e e' l =>
    obtain ⟨k, b⟩ := e
    obtain ⟨k', b'⟩ := e'
    have hne : k' ≠ k := fun heq => by simp [heq] at hkeys
    simp only [List.lookup_cons]
    cases hk : key == k with
    | true =>
      have hk' : (key == k') = false := beq_eq_false_iff_ne.mpr (eq_of_beq hk ▸ hne.symm)
      rw [hk']
    | false => rfl
  | trans hl _ ih ih' => rw [ih hkeys, ih' ((hl.map _).nodup hkeys)]

namespace FileTree.SameEntries

theorem entry? (hs : tree.SameEntries tree') : tree'.entry? = tree.entry? := by
  funext place
  unfold FileTree.entry?
  rw [lookup_eq_of_perm hs.entries hs.placed]

theorem isFolderAt (hs : tree.SameEntries tree') : tree'.isFolderAt = tree.isFolderAt := by
  funext place
  unfold FileTree.isFolderAt
  rw [hs.entry?]

/-- A path leads to the same place. -/
theorem follow (hs : tree.SameEntries tree') (fuel links : Nat) (place : Place)
    (segments : List String) :
    tree'.follow fuel links place segments = tree.follow fuel links place segments := by
  induction fuel generalizing links place segments with
  | zero => rfl
  | succ fuel ih =>
    cases segments with
    | nil => rfl
    | cons segment rest => simp only [FileTree.follow, hs.isFolderAt, hs.entry?, ih]

theorem resolve? (hs : tree.SameEntries tree') : tree'.resolve? = tree.resolve? := by
  funext p
  unfold FileTree.resolve?
  rw [hs.working, hs.follow]

theorem get? (hs : tree.SameEntries tree') : tree'.get? = tree.get? := by
  funext p
  unfold FileTree.get?
  rw [hs.resolve?, hs.entry?]

theorem «exists» (hs : tree.SameEntries tree') : tree'.exists = tree.exists := by
  funext p
  unfold FileTree.exists
  rw [hs.get?]

theorem isFolder (hs : tree.SameEntries tree') : tree'.isFolder = tree.isFolder := by
  funext p
  unfold FileTree.isFolder
  rw [hs.get?]

theorem isFile (hs : tree.SameEntries tree') : tree'.isFile = tree.isFile := by
  funext p
  unfold FileTree.isFile
  rw [hs.get?]

theorem read? (hs : tree.SameEntries tree') : tree'.read? = tree.read? := by
  funext p
  unfold FileTree.read?
  rw [hs.get?]

theorem settled (hs : tree.SameEntries tree') : tree'.settled = tree.settled := by
  funext p
  unfold FileTree.settled FileTree.canonical?
  rw [hs.resolve?]

/-- A folder lists the same names, in some order. -/
theorem list? (hs : tree.SameEntries tree') (p : Path) :
    Option.Rel List.Perm (tree.list? p) (tree'.list? p) := by
  unfold FileTree.list?
  rw [hs.resolve?]
  cases tree.resolve? p with
  | none => exact .none
  | some place =>
    dsimp only
    rw [hs.isFolderAt]
    split
    · exact .some (((List.reverse_perm _).trans (hs.entries.filterMap _)).trans
        (List.reverse_perm _).symm)
    · exact .none

end FileTree.SameEntries

/-! ## Loading -/

theorem pairwise_mergeSort_names (names : List String) :
    (names.mergeSort fun a b => !(b < a)).Pairwise (· ≤ ·) := by
  have hle : (fun a b : String => !decide (b < a)) = fun a b => decide (a ≤ b) := by
    funext a b
    rw [← decide_not, decide_eq_decide, String.not_lt]
  rw [hle]
  exact List.pairwise_mergeSort' _ names

theorem mergeSort_eq_of_pairwise {names names' : List String} (hnames : names.Perm names')
    (hsorted : names'.Pairwise (· ≤ ·)) : (names.mergeSort fun a b => !(b < a)) = names' :=
  List.Perm.eq_of_pairwise' (pairwise_mergeSort_names names) hsorted
    ((List.mergeSort_perm _ _).trans hnames)

/-- Lists with the same elements are sorted alike. -/
theorem mergeSort_eq_of_perm {names names' : List String} (hnames : names.Perm names') :
    (names.mergeSort fun a b => !(b < a)) = names'.mergeSort fun a b => !(b < a) :=
  mergeSort_eq_of_pairwise (hnames.trans (List.mergeSort_perm _ _).symm)
    (pairwise_mergeSort_names names')

namespace FolderLayout

theorem locate_sameEntries (hs : tree.SameEntries tree') :
    layout.locate tree' = layout.locate tree := by
  funext id
  unfold locate
  rw [hs.isFolder]

/-- The artifacts of a folder are sorted, so the order in which it lists them is lost. -/
theorem artifacts_sameEntries (hs : tree.SameEntries tree') :
    layout.artifacts tree' = layout.artifacts tree := by
  funext id folder
  unfold artifacts gatherArtifacts artifactNames
  have hlist := hs.list? folder
  rw [hs.isFile, hs.settled]
  revert hlist
  generalize tree.list? folder = found, tree'.list? folder = found'
  rintro (hnames | _)
  · dsimp only
    rw [mergeSort_eq_of_perm (hnames.filter _)]
  · rfl

/-- The same contexts are loaded. -/
theorem load_sameEntries (hs : tree.SameEntries tree') : layout.load tree' = layout.load tree := by
  funext libraries d
  unfold load bareContext
  rw [locate_sameEntries hs, artifacts_sameEntries hs, hs.read?]

/-! ## Scanning -/

theorem scanFolder_sameEntries (hs : tree.SameEntries tree') :
    layout.scanFolder tree' = layout.scanFolder tree := by
  have htext : tree'.readText? = tree.readText? := by
    funext p
    unfold FileTree.readText?
    rw [hs.read?]
  funext folder
  unfold scanFolder readFolder readManifest isDisabled
  rw [hs.isFile, hs.exists, htext]

/-- A scan tells the same, in some order. -/
theorem scan_perm (hs : tree.SameEntries tree') :
    (layout.scan tree).1.Perm (layout.scan tree').1 := by
  unfold scan scanRoot foldersBelow
  have hlist := hs.list? layout.root
  rw [hs.isFolder]
  revert hlist
  generalize tree.list? layout.root = found, tree'.list? layout.root = found'
  rintro (hnames | _)
  · dsimp only
    rw [scanFolders_events, scanFolders_events, scanFolder_sameEntries hs]
    exact ((hnames.map _).filter _).filterMap _
  · exact .refl _

end FolderLayout

/-! ## Distinct ids -/

theorem FileTree.IsPlaced.namesAt (ht : tree.IsPlaced) (place : Place) :
    (tree.namesAt place).Nodup := by
  unfold FileTree.namesAt List.Nodup
  rw [List.pairwise_filterMap]
  refine (List.pairwise_map.mp ht).imp fun {e e'} hne name hname name' hname' heq => hne ?_
  -- An entry is listed under a name only if it is at the place below with that name.
  dsimp only at hname hname'
  split at hname
  · split at hname
    next hplace =>
      cases hname
      split at hname'
      · split at hname'
        next hplace' =>
          cases hname'
          exact hplace.symm.trans (heq ▸ hplace')
        · cases hname'
      · cases hname'
    · cases hname
  · cases hname

/-- A folder lists every name once. -/
theorem FileTree.IsPlaced.list? {p : Path} {names : List String} (ht : tree.IsPlaced)
    (hlist : tree.list? p = some names) : names.Nodup := by
  unfold FileTree.list? at hlist
  split at hlist
  · split at hlist
    · cases hlist
      exact List.nodup_reverse.mpr (ht.namesAt _)
    · cases hlist
  · cases hlist

/-- The ids that a scan of folders tells of are names of folders, in their order. -/
theorem FolderLayout.scanFolders_ids {root : Path} {names : List String}
    (hnames : ∀ name ∈ names, isName name = true) :
    ((layout.scanFolders tree (foldersBelow tree root names)).1.map Event.id).Sublist names := by
  rw [scanFolders_events]
  induction names with
  | nil => exact .slnil
  | cons name rest ih =>
    obtain ⟨hname, hrest⟩ := List.forall_mem_cons.mp hnames
    unfold foldersBelow at ih ⊢
    rw [List.map_cons, List.filter_cons]
    split
    · rw [List.filterMap_cons]
      cases hscan : layout.scanFolder tree (root.joinName name) with
      | error notice => exact (ih hrest).cons name
      | ok e =>
        have hid := (scanFolder_ok hscan).2.2
        rw [Path.fileName?_joinName hname] at hid
        have hid : name = e.id := hid
        exact hid ▸ (ih hrest).cons_cons name
    · exact (ih hrest).cons name

/-- A scan tells of every id once. -/
theorem FolderLayout.scan_ids_nodup (ht : tree.IsPlaced) (hnamed : tree.IsNamed) :
    ((layout.scan tree).1.map Event.id).Nodup := by
  unfold scan scanRoot
  cases hlist : tree.list? layout.root with
  | none => exact List.nodup_nil
  | some names => exact (scanFolders_ids (hnamed.list? hlist)).nodup (ht.list? hlist)

/-! ## Hosts -/

/-- The host on other files. -/
def Host.onFiles (h : Host) (tree : FileTree) : Host :=
  { h with files := tree }

/-- A host on a store that lists its entries in another order is set up in the same way. -/
theorem Host.onFiles_setup {h : Host} (hs : h.files.SameEntries tree) :
    h.setup.Like (h.onFiles tree).setup where
  settings := rfl
  load d := by
    show h.settings.layout.load h.files h.libraries d = h.settings.layout.load tree h.libraries d
    rw [FolderLayout.load_sameEntries hs]
  factories := rfl
  dependencies := rfl
  hooks := rfl
  gateways := rfl

end ExtensionHost

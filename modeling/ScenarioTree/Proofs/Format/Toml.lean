import ScenarioTree.Format.Toml
import ScenarioTree.Proofs.Reference.Ascending

/-!
# Maps in TOML documents

While a TOML document is read, its tables keep their entries in the order of the text. They are
sorted when the document is complete, and inline tables when they are closed. So what has to be kept
on the way is that the finished values inside of tables have their maps in order.

Results:

* `Node.ascends_toValue`: a table with such values becomes a value with all maps in order.
* `descend_keeps`: a change at the end of a path keeps the order if the change itself does.
* `Draft.Ascends.step`: a statement keeps the order.
* `ascends_of_parse`: the maps of a document ascend.
-/

namespace ScenarioTree.Toml

open Reference (IsScalar)

/-! ## Tables -/

/-- The finished values in a node have their maps in order. -/
inductive Node.Ascends : Node → Prop
  | value {v : Value} (h : v.Ascends) : Ascends (.value v)
  | table {implied dotted : Bool} {entries : Entries} (h : ∀ entry ∈ entries, Ascends entry.2) :
      Ascends (.table implied dotted entries)
  | tables {elements : List Entries}
      (h : ∀ entries ∈ elements, ∀ entry ∈ entries, Ascends entry.2) : Ascends (.tables elements)

/-- The finished values in a table have their maps in order. -/
def Ascend (entries : Entries) : Prop := ∀ entry ∈ entries, entry.2.Ascends

mutual

theorem Node.ascends_toValue : ∀ {node : Node}, node.Ascends → node.toValue.Ascends
  | .value _, .value h => h
  | .table _ _ _, .table h => Value.ascends_ofEntries (ascends_toFields h)
  | .tables _, .tables h => Value.ascends_array.2 (ascends_toItems h)

theorem Node.ascends_toFields : ∀ {entries : List (String × Node)}, Ascend entries →
    ∀ entry ∈ Node.toFields entries, entry.2.Ascends
  | [], _ => nofun
  | (key, node) :: rest, h => by
    obtain ⟨hnode, hrest⟩ := List.forall_mem_cons.1 h
    exact List.forall_mem_cons.2 ⟨node.ascends_toValue hnode, ascends_toFields hrest⟩

theorem Node.ascends_toItems : ∀ {elements : List (List (String × Node))},
    (∀ entries ∈ elements, Ascend entries) → ∀ v ∈ Node.toItems elements, v.Ascends
  | [], _ => nofun
  | entries :: rest, h => by
    obtain ⟨hentries, hrest⟩ := List.forall_mem_cons.1 h
    exact List.forall_mem_cons.2
      ⟨Value.ascends_ofEntries (ascends_toFields hentries), ascends_toItems hrest⟩

end

variable {entries entries' : Entries} {key : String} {node : Node}

theorem ascend_nil : Ascend [] := nofun

theorem Ascend.lookup (h : Ascend entries) (hkey : entries.lookup key = some node) :
    node.Ascends := h _ (mem_of_lookup_eq_some hkey)

theorem Ascend.add (h : Ascend entries) (hnode : node.Ascends) : Ascend (add entries key node) :=
  List.forall_mem_append.2 ⟨h, List.forall_mem_singleton.2 hnode⟩

theorem Ascend.replace (h : Ascend entries) (hnode : node.Ascends) :
    Ascend (replace entries key node) := by
  intro entry hentry
  obtain ⟨old, hold, rfl⟩ := List.mem_map.1 hentry
  split_ifs
  · exact hnode
  · exact h old hold

/-! ## Changes of tables -/

/-- A change of tables keeps maps in order, and what it gives is as required. -/
def Keeps {α : Type} (Gives : α → Prop) (change : Entries → Option (Entries × α)) : Prop :=
  ∀ entries entries' result, Ascend entries → change entries = some (entries', result) →
    Ascend entries' ∧ Gives result

theorem descend_keeps {α : Type} {Gives : α → Prop} {byDots : Bool}
    {change : Bool → Entries → Option (Entries × α)} (h : ∀ dotted, Keeps Gives (change dotted))
    (path : List String) (dotted : Bool) : Keeps Gives (descend byDots change path dotted) := by
  induction path generalizing dotted with
  | nil => exact h dotted
  | cons key path ih =>
    intro entries entries' result hentries hdescend
    rw [descend] at hdescend
    split at hdescend
    · obtain ⟨⟨inner, _⟩, hinner, ⟨⟩⟩ := Option.bind_eq_some_iff.1 hdescend
      obtain ⟨hinner, hresult⟩ := ih _ _ _ _ ascend_nil hinner
      exact ⟨hentries.add (.table hinner), hresult⟩
    · cases hdescend
    · rename_i elements hkey
      obtain ⟨last, hlast, hdescend⟩ := Option.bind_eq_some_iff.1 hdescend
      obtain ⟨⟨inner, _⟩, hinner, ⟨⟩⟩ := Option.bind_eq_some_iff.1 hdescend
      cases hentries.lookup hkey with
      | tables helements =>
        obtain ⟨hinner, hresult⟩ := ih _ _ _ _ (helements _ (List.mem_of_getLast? hlast)) hinner
        have hothers : ∀ entries ∈ elements.dropLast, Ascend entries :=
          fun entries h => helements entries (List.mem_of_mem_dropLast h)
        exact ⟨hentries.replace (.tables (List.forall_mem_append.2
          ⟨hothers, List.forall_mem_singleton.2 hinner⟩)), hresult⟩
    · rename_i hkey
      obtain ⟨-, hdescend⟩ := Option.ite_none_left_eq_some.1 hdescend
      obtain ⟨⟨inner, _⟩, hinner, ⟨⟩⟩ := Option.bind_eq_some_iff.1 hdescend
      cases hentries.lookup hkey with
      | table htable =>
        obtain ⟨hinner, hresult⟩ := ih _ _ _ _ htable hinner
        exact ⟨hentries.replace (.table hinner), hresult⟩

/-- A change that gives nothing besides the table. -/
theorem ascend_of_descend {byDots dotted : Bool} {path : List String} {result : Unit}
    {change : Bool → Entries → Option (Entries × Unit)}
    (h : ∀ dotted inner inner', Ascend inner → change dotted inner = some (inner', ()) →
      Ascend inner')
    (hentries : Ascend entries)
    (hdescend : descend byDots change path dotted entries = some (entries', result)) :
    Ascend entries' := by
  have hkeeps (dotted : Bool) : Keeps (fun _ => True) (change dotted) :=
    fun inner inner' _ hinner hchange => ⟨h dotted inner inner' hinner hchange, trivial⟩
  exact (descend_keeps hkeeps path dotted _ _ _ hentries hdescend).1

theorem Ascend.assign {path : List String} {v : Value} (h : Ascend entries) (hv : v.Ascends)
    (hassign : assign entries path key v = some entries') : Ascend entries' := by
  obtain ⟨_, hdescend, ⟨⟩⟩ := Option.bind_eq_some_iff.1 hassign
  refine ascend_of_descend (fun dotted inner inner' hinner hchange => ?_) h hdescend
  obtain ⟨-, ⟨⟩⟩ := Option.ite_none_left_eq_some.1 hchange
  exact hinner.add (.value hv)

theorem Ascend.openTable {path : List String} {table : Entries} (h : Ascend entries)
    (hopen : openTable entries path key = some (entries', table)) :
    Ascend entries' ∧ Ascend table := by
  refine descend_keeps (fun dotted parent parent' result hparent hchange => ?_)
    path false _ _ _ h hopen
  split at hchange
  · cases hchange
    exact ⟨hparent, ascend_nil⟩
  · rename_i hkey
    cases hchange
    cases hparent.lookup hkey with
    | table htable =>
      exact ⟨fun entry hentry => hparent entry (List.mem_of_mem_filter hentry), htable⟩
  · cases hchange

theorem Ascend.closeTable {path : List String} {table : Entries} (h : Ascend entries)
    (htable : Ascend table) (hclose : closeTable entries path key table = some entries') :
    Ascend entries' := by
  obtain ⟨_, hdescend, ⟨⟩⟩ := Option.bind_eq_some_iff.1 hclose
  refine ascend_of_descend (fun dotted parent parent' hparent hchange => ?_) h hdescend
  obtain ⟨-, ⟨⟩⟩ := Option.ite_none_left_eq_some.1 hchange
  exact hparent.add (.table htable)

theorem Ascend.openElement {path : List String} (h : Ascend entries)
    (hopen : openElement entries path key = some entries') : Ascend entries' := by
  obtain ⟨_, hdescend, ⟨⟩⟩ := Option.bind_eq_some_iff.1 hopen
  refine ascend_of_descend (fun dotted parent parent' hparent hchange => ?_) h hdescend
  split at hchange <;> cases hchange <;> exact hparent

theorem Ascend.closeElement {path : List String} {table : Entries} (h : Ascend entries)
    (htable : Ascend table) (hclose : closeElement entries path key table = some entries') :
    Ascend entries' := by
  obtain ⟨_, hdescend, ⟨⟩⟩ := Option.bind_eq_some_iff.1 hclose
  refine ascend_of_descend (fun dotted parent parent' hparent hchange => ?_) h hdescend
  split at hchange
  · cases hchange
    exact hparent.add (.tables (List.forall_mem_singleton.2 htable))
  · rename_i hkey
    cases hchange
    cases hparent.lookup hkey with
    | tables helements =>
      exact hparent.replace (.tables (List.forall_mem_append.2
        ⟨helements, List.forall_mem_singleton.2 htable⟩))
  · cases hchange

/-! ## Words -/

theorem isScalar_of_word {n : Int} {v : Value} (h : word? n = some v) : IsScalar v := by
  obtain ⟨-, ⟨⟩⟩ := Option.ite_none_right_eq_some.1 h
  trivial

theorem isScalar_of_decimal {negative : Bool} {text : List Char} {v : Value}
    (h : decimal? negative text = some v) : IsScalar v := by
  unfold decimal? at h
  generalize cut (fun c => c == 'e' || c == 'E') text = parts at h
  obtain ⟨mantissa, exponent⟩ := parts
  generalize hcut : cut (· == '.') mantissa = parts at h
  obtain ⟨whole, fraction⟩ := parts
  simp only [hcut] at h
  obtain ⟨_, -, h⟩ := Option.bind_eq_some_iff.1 h
  split at h
  · exact isScalar_of_word h
  · obtain ⟨_, -, h⟩ := Option.bind_eq_some_iff.1 h
    obtain ⟨_, -, h⟩ := Option.bind_eq_some_iff.1 h
    split at h
    · cases h
      trivial
    · obtain ⟨-, ⟨⟩⟩ := Option.ite_none_right_eq_some.1 h
      trivial

theorem isScalar_of_number {text : List Char} {v : Value} (h : number? text = some v) :
    IsScalar v := by
  have hradix {base : Nat} {text : List Char} (h : radix? base text = some v) : IsScalar v := by
    obtain ⟨_, -, h⟩ := Option.bind_eq_some_iff.1 h
    exact isScalar_of_word h
  unfold number? at h
  split at h
  · exact hradix h
  · exact hradix h
  · exact hradix h
  · dsimp only at h
    split_ifs at h
    · cases h
      trivial
    · exact isScalar_of_decimal h

theorem ascends_dateTimeValue (text : List Char) : (dateTimeValue text).Ascends :=
  Value.ascends_object.2 ⟨List.pairwise_singleton _ _,
    List.forall_mem_singleton.2 (Value.ascends_of_isScalar trivial)⟩

theorem ascends_of_dateTime {text : List Char} {v : Value} (h : dateTime? text = some v) :
    v.Ascends := by
  have htext (text : List Char) : (dateTimeValue text).Ascends := ascends_dateTimeValue text
  unfold dateTime? at h
  split at h
  · cases h
    exact htext _
  · obtain ⟨_, -, rfl⟩ := Option.map_eq_some_iff.1 h
    exact htext _
  · obtain ⟨_, -, rfl⟩ := Option.map_eq_some_iff.1 h
    exact htext _
  · cases h
  · split at h <;> cases h
    exact htext _

theorem ascends_of_wordValue {text : List Char} {v : Value} (h : wordValue? text = some v) :
    v.Ascends := by
  unfold wordValue? at h
  split_ifs at h
  · cases h
    exact Value.ascends_of_isScalar trivial
  · cases h
    exact Value.ascends_of_isScalar trivial
  · obtain h | ⟨-, h⟩ := Option.or_eq_some_iff.1 h
    · exact ascends_of_dateTime h
    · exact Value.ascends_of_isScalar (isScalar_of_number h)

theorem ascends_of_readWord {text rest : List Char} {v : Value}
    (h : readWord text = some (v, rest)) : v.Ascends := by
  unfold readWord at h
  dsimp only at h
  split at h
  · split_ifs at h
    · obtain ⟨_, -, ⟨⟩⟩ := Option.map_eq_some_iff.1 h
      exact ascends_dateTimeValue _
    · cases h
      exact ascends_dateTimeValue _
  · obtain ⟨_, hv, ⟨⟩⟩ := Option.map_eq_some_iff.1 h
    exact ascends_of_wordValue hv

/-! ## Values -/

mutual

theorem ascends_readValue {depth : Nat} {rest : List Char} {v : Value} :
    ∀ {fuel : Nat} {text : List Char},
      readValue fuel depth text = some (v, rest) → v.Ascends
  | 0, _, h => by
    rw [readValue] at h
    cases h
  | fuel + 1, text, h => by
    rw [readValue.eq_def] at h
    dsimp only at h
    split at h
    · obtain ⟨_, -, ⟨⟩⟩ := Option.map_eq_some_iff.1 h
      exact Value.ascends_of_isScalar trivial
    · obtain ⟨_, -, ⟨⟩⟩ := Option.map_eq_some_iff.1 h
      exact Value.ascends_of_isScalar trivial
    · obtain ⟨-, h⟩ := Option.ite_none_left_eq_some.1 h
      obtain ⟨_, hitems, ⟨⟩⟩ := Option.map_eq_some_iff.1 h
      exact Value.ascends_array.2 (ascends_readItems hitems)
    · obtain ⟨-, h⟩ := Option.ite_none_left_eq_some.1 h
      split at h
      · cases h
        exact Value.ascends_object.2 ⟨.nil, nofun⟩
      · obtain ⟨⟨entries, _⟩, hentries, ⟨⟩⟩ := Option.bind_eq_some_iff.1 h
        exact Node.ascends_toValue (.table (ascend_readPairs ascend_nil hentries))
    · exact ascends_of_readWord h

theorem ascends_readItems {depth : Nat} {rest : List Char} {vs : List Value} :
    ∀ {fuel : Nat} {text : List Char},
      readItems fuel depth text = some (vs, rest) → ∀ v ∈ vs, v.Ascends
  | 0, _, h => by
    rw [readItems] at h
    cases h
  | fuel + 1, text, h => by
    rw [readItems] at h
    obtain ⟨_, -, h⟩ := Option.bind_eq_some_iff.1 h
    split at h
    · cases h
      exact nofun
    · obtain ⟨⟨v, _⟩, hv, h⟩ := Option.bind_eq_some_iff.1 h
      obtain ⟨_, -, h⟩ := Option.bind_eq_some_iff.1 h
      split at h
      · cases h
        exact List.forall_mem_singleton.2 (ascends_readValue hv)
      · obtain ⟨_, hvs, ⟨⟩⟩ := Option.bind_eq_some_iff.1 h
        exact List.forall_mem_cons.2 ⟨ascends_readValue hv, ascends_readItems hvs⟩
      · cases h

theorem ascend_readPairs {depth : Nat} {rest : List Char} {entries' : Entries} :
    ∀ {fuel : Nat} {entries : Entries} {text : List Char}, Ascend entries →
      readPairs fuel depth entries text = some (entries', rest) → Ascend entries'
  | 0, _, _, _, h => by
    rw [readPairs] at h
    cases h
  | fuel + 1, entries, text, hentries, h => by
    rw [readPairs] at h
    obtain ⟨_, -, h⟩ := Option.bind_eq_some_iff.1 h
    obtain ⟨_, -, h⟩ := Option.bind_eq_some_iff.1 h
    dsimp only at h
    split at h
    · obtain ⟨⟨v, _⟩, hv, h⟩ := Option.bind_eq_some_iff.1 h
      obtain ⟨more, hmore, h⟩ := Option.bind_eq_some_iff.1 h
      have hall := hentries.assign (ascends_readValue hv) hmore
      dsimp only at h
      split at h
      · cases h
        exact hall
      · exact ascend_readPairs hall h
      · cases h
    · cases h

end

/-! ## Documents -/

/-- The value of a statement has its maps in order. -/
def Statement.Ascends : Statement → Prop
  | .assign _ _ v => v.Ascends
  | _ => True

theorem ascends_of_readStatement {text rest : List Char} {statement : Statement}
    (h : readStatement text = some (statement, rest)) : statement.Ascends := by
  unfold readStatement at h
  split at h
  · obtain ⟨_, -, ⟨⟩⟩ := Option.map_eq_some_iff.1 h
    trivial
  · obtain ⟨_, -, ⟨⟩⟩ := Option.map_eq_some_iff.1 h
    trivial
  · obtain ⟨_, -, h⟩ := Option.bind_eq_some_iff.1 h
    obtain ⟨_, -, h⟩ := Option.bind_eq_some_iff.1 h
    dsimp only at h
    split at h
    · obtain ⟨_, hv, h⟩ := Option.bind_eq_some_iff.1 h
      obtain ⟨_, -, ⟨⟩⟩ := Option.bind_eq_some_iff.1 h
      exact ascends_readValue hv
    · cases h

theorem ascends_of_readStatements {fuel : Nat} {text : List Char} {statements : List Statement}
    (h : readStatements fuel text = some statements) : ∀ s ∈ statements, s.Ascends := by
  induction fuel generalizing text statements with
  | zero => cases h
  | succ fuel ih =>
    obtain ⟨_, -, h⟩ := Option.bind_eq_some_iff.1 h
    split at h
    · cases h
      exact nofun
    · obtain ⟨_, hstatement, h⟩ := Option.bind_eq_some_iff.1 h
      obtain ⟨_, hrest, ⟨⟩⟩ := Option.bind_eq_some_iff.1 h
      exact List.forall_mem_cons.2 ⟨ascends_of_readStatement hstatement, ih hrest⟩

/-- The tables of a draft have maps in order. -/
structure Draft.Ascends (draft : Draft) : Prop where
  root : Ascend draft.root
  current : Ascend draft.current

variable {draft draft' : Draft}

theorem Draft.Ascends.close (h : draft.Ascends) (hclose : draft.close = some entries) :
    Ascend entries := by
  unfold Draft.close at hclose
  split at hclose
  · cases hclose
    exact h.current
  · exact h.root.closeTable h.current hclose
  · exact h.root.closeElement h.current hclose

theorem Draft.Ascends.step (h : draft.Ascends) {statement : Statement} (hs : statement.Ascends)
    (hstep : draft.step statement = some draft') : draft'.Ascends := by
  cases statement with
  | table path key =>
    obtain ⟨_, hclose, hstep⟩ := Option.bind_eq_some_iff.1 hstep
    obtain ⟨_, hopen, ⟨⟩⟩ := Option.bind_eq_some_iff.1 hstep
    obtain ⟨hroot, hcurrent⟩ := (h.close hclose).openTable hopen
    exact ⟨hroot, hcurrent⟩
  | element path key =>
    obtain ⟨_, hclose, hstep⟩ := Option.bind_eq_some_iff.1 hstep
    obtain ⟨_, hopen, ⟨⟩⟩ := Option.bind_eq_some_iff.1 hstep
    exact ⟨(h.close hclose).openElement hopen, ascend_nil⟩
  | assign path key v =>
    obtain ⟨_, hassign, ⟨⟩⟩ := Option.bind_eq_some_iff.1 hstep
    exact ⟨h.root, h.current.assign hs hassign⟩

theorem Draft.Ascends.steps {statements : List Statement} (h : draft.Ascends)
    (hs : ∀ s ∈ statements, s.Ascends) (hsteps : statements.foldlM Draft.step draft = some draft') :
    draft'.Ascends := by
  induction statements generalizing draft with
  | nil =>
    cases hsteps
    exact h
  | cons statement rest ih =>
    obtain ⟨hstatement, hrest⟩ := List.forall_mem_cons.1 hs
    rw [List.foldlM_cons] at hsteps
    obtain ⟨_, hstep, hsteps⟩ := Option.bind_eq_some_iff.1 hsteps
    exact ih (h.step hstatement hstep) hrest hsteps

theorem ascends_of_parse {text : String} {v : Value} (h : parse? text = some v) : v.Ascends := by
  obtain ⟨_, hstatements, h⟩ := Option.bind_eq_some_iff.1 h
  obtain ⟨draft, hsteps, h⟩ := Option.bind_eq_some_iff.1 h
  obtain ⟨_, hclose, ⟨⟩⟩ := Option.bind_eq_some_iff.1 h
  have hdraft : draft.Ascends := Draft.Ascends.steps ⟨ascend_nil, ascend_nil⟩
    (ascends_of_readStatements hstatements) hsteps
  exact Node.ascends_toValue (.table (hdraft.close hclose))

end ScenarioTree.Toml

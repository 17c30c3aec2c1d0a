import Mathlib.Data.List.Chain
import Unclosed.Closers
import Unclosed.Proofs.Descent

/-!
# Releases in the scope of a statement

Whether a variable is released is decided by comparing positions and by a search through function
literals.  Here the same is said by the places of statements in their lists: a release is deferred
after the statement that binds the variable, or a function literal that holds a release is deferred
anywhere in the list.  The two agree on everything that is laid out in source order.
-/

namespace Unclosed

/-! ## Parentheses -/

/-- `n.Wraps m`: `n` is `m` in any number of parentheses, and `m` is in no more of them. -/
inductive Node.Wraps : Node → Node → Prop
  | bare {n : Node} : n.form ≠ .paren → Wraps n n
  | paren {edge : Edge} {span : Span} {type : Option Ty} {inner m : Node} :
      Wraps inner m → Wraps ⟨edge, .paren, span, type, [inner]⟩ m

/-- Taking all parentheses away leads to what is wrapped. -/
theorem Node.wraps_iff {n m : Node} : n.Wraps m ↔ n.unparen = m ∧ m.form ≠ .paren := by
  constructor
  · intro h
    induction h with
    | @bare n h =>
        refine ⟨?_, h⟩
        unfold unparen
        split
        · exact absurd rfl h
        · rfl
    | paren _ ih =>
        rw [unparen]
        exact ih
  · rintro ⟨rfl, h⟩
    fun_induction unparen n with
    | case1 _ _ _ inner ih => exact .paren (ih h)
    | case2 n _ => exact .bare h

/-! ## Calls that release -/

theorem Form.isSelector_iff {form : Form} :
    form.isSelector ↔ ∃ selection, form = .selector selection := by
  cases form <;> simp [isSelector]

theorem Node.identName?_eq_some_iff {n : Node} {name : String} :
    n.identName? = some name ↔ ∃ declares refersTo, n.form = .ident name declares refersTo := by
  rw [identName?]
  cases n.form <;> simp

theorem Node.reference?_eq_some_iff {n : Node} {v : ObjectId} :
    n.reference? = some v ↔ ∃ name declares, n.form = .ident name declares (some v) := by
  rw [reference?]
  cases n.form <;> simp

/-- `call.Calls f`: what is called is `f`, parentheses aside. -/
def Node.Calls (call f : Node) : Prop :=
  ∃ callee, call.child? .callee = some callee ∧ callee.Wraps f

theorem Node.calls_iff {call f : Node} :
    call.Calls f ↔ (call.child? .callee).map unparen = some f ∧ f.form ≠ .paren := by
  simp only [Calls, wraps_iff, Option.map_eq_some_iff, ← and_assoc, exists_and_right]

namespace Closers

variable {c : Closers} {v : ObjectId} {call : Node}

/-- The call is a release method of an identifier that refers to the variable. -/
def ReleaseCall (c : Closers) (v : ObjectId) (call : Node) : Prop :=
  ∃ selector, call.Calls selector ∧ (∃ selection, selector.form = .selector selection) ∧
    (∃ method name declares refersTo, selector.child? .selected = some method ∧
      method.form = .ident name declares refersTo ∧ c.isRelease name) ∧
    ∃ operand x name declares, selector.child? .operand = some operand ∧ operand.Wraps x ∧
      x.form = .ident name declares (some v)

/-- The call runs a function literal in which such a call stands at any depth. -/
def ReleaseLiteral (c : Closers) (v : ObjectId) (call : Node) : Prop :=
  ∃ literal, call.Calls literal ∧ literal.form = .funcLit ∧
    ∃ body path inner, literal.child? .body = some body ∧ body.Reaches path inner ∧
      inner.form = .call ∧ c.ReleaseCall v inner

theorem releases_iff : c.releases call v ↔ c.ReleaseCall v call := by
  simp only [releases, ReleaseCall, Node.calls_iff]
  cases (call.child? .callee).map Node.unparen with
  | none => simp
  | some callee =>
      simp only [Bool.and_eq_true, Form.isSelector_iff, Option.any_eq_true,
        Option.bind_eq_some_iff, beq_iff_eq, Node.identName?_eq_some_iff,
        Node.reference?_eq_some_iff, Node.wraps_iff, Option.some.injEq]
      constructor
      · rintro ⟨⟨⟨selection, hform⟩, name, ⟨method, hmethod, declares, refersTo, hname⟩, hrelease⟩,
          operand, hoperand, name', declares', hx⟩
        refine ⟨callee, ⟨rfl, by simp [hform]⟩, ⟨selection, hform⟩, ?_, ?_⟩
        · exact ⟨method, name, declares, refersTo, hmethod, hname, hrelease⟩
        · exact ⟨operand, operand.unparen, name', declares', hoperand, ⟨rfl, by simp [hx]⟩, hx⟩
      · rintro ⟨_, ⟨rfl, -⟩, hform, ⟨method, name, declares, refersTo, hmethod, hname, hrelease⟩,
          operand, _, name', declares', hoperand, ⟨rfl, -⟩, hx⟩
        refine ⟨⟨hform, name, ?_, hrelease⟩, operand, hoperand, name', declares', hx⟩
        exact ⟨method, hmethod, declares, refersTo, hname⟩

/-- The search through a function literal finds the release calls in it. -/
theorem releasesInLiteral_iff : c.releasesInLiteral call v ↔ c.ReleaseLiteral v call := by
  simp only [releasesInLiteral, ReleaseLiteral, Node.calls_iff]
  cases (call.child? .callee).map Node.unparen with
  | none => simp
  | some callee =>
      simp only [Bool.and_eq_true, decide_eq_true_eq, Option.any_eq_true, List.any_eq_true,
        isReleaseOf, releases_iff, Node.mem_preorder_iff, Option.some.injEq]
      constructor
      · rintro ⟨hform, body, hbody, inner, ⟨path, hr⟩, hinner⟩
        refine ⟨callee, ⟨rfl, by simp [hform]⟩, hform, body, path, inner, hbody, hr, hinner⟩
      · rintro ⟨_, ⟨rfl, -⟩, hform, body, path, inner, hbody, hr, hinner⟩
        exact ⟨hform, body, hbody, inner, ⟨path, hr⟩, hinner⟩

end Closers

/-! ## Lists of statements -/

namespace Site

/-- `s.Scope list`: what the statement binds is in the scope of `list`, which the statement stands
in or, as a communication or an init, right before. -/
inductive Scope : Site → List Node → Prop
  | block {p n : Node} : p.form = .block → n.edge = .list → Scope ⟨some p, n⟩ (p.under .list)
  | caseBody {p n : Node} :
      p.form = .caseClause → n.edge = .body → Scope ⟨some p, n⟩ (p.under .body)
  | commBody {p n : Node} :
      p.form = .commClause → n.edge = .body → Scope ⟨some p, n⟩ (p.under .body)
  | comm {p n : Node} : p.form = .commClause → n.edge = .comm → Scope ⟨some p, n⟩ (p.under .body)
  | init {p n body : Node} : p.form = .ifStmt → n.edge = .init → p.child? .body = some body →
      Scope ⟨some p, n⟩ (body.under .list)

def IsAhead (s : Site) : Prop :=
  s.node.edge = .comm ∨ s.node.edge = .init

/-- `s.Precedes list d`: the statement comes before `d` in the list, or before the whole list. -/
inductive Precedes (s : Site) (list : List Node) (d : Node) : Prop
  | inList {i k : Nat} : list[i]? = some s.node → list[k]? = some d → i < k → s.Precedes list d
  | ahead : s.IsAhead → d ∈ list → s.Precedes list d

/-- The statement and those of the list are laid out in source order, as parsed files are. -/
structure InSourceOrder (s : Site) (list : List Node) : Prop where
  /-- No statement ends before it starts. -/
  forward : ∀ d ∈ s.node :: list, d.span.start ≤ d.span.stop
  /-- Each statement of the list ends before the next one starts. -/
  apart : list.IsChain fun a b => a.span.stop < b.span.start
  /-- What stands before the list ends before its first statement starts. -/
  ahead : s.IsAhead → ∀ d ∈ list.head?, s.node.span.stop < d.span.start

variable {s : Site} {list : List Node} {d : Node}

/-- A scope is the list that belongs to the site. -/
theorem Scope.statements_eq (h : s.Scope list) : s.statements = list := by
  cases h <;> simp_all [statements]

/-- A statement of the list that belongs to the site is in a scope. -/
theorem exists_scope_of_mem_statements (h : d ∈ s.statements) : ∃ list, s.Scope list ∧ d ∈ list := by
  obtain ⟨parent, n⟩ := s
  cases parent with
  | none => cases h
  | some p =>
      simp only [statements] at h
      split at h
      · rename_i hform hedge
        exact ⟨_, .block hform hedge, h⟩
      · rename_i hform hedge
        exact ⟨_, .caseBody hform hedge, h⟩
      · rename_i hform hedge
        exact ⟨_, .commBody hform hedge, h⟩
      · rename_i hform hedge
        exact ⟨_, .comm hform hedge, h⟩
      · rename_i hform hedge
        cases hbody : p.child? .body with
        | none => simp [hbody] at h
        | some body =>
            rw [hbody] at h
            exact ⟨_, .init hform hedge hbody, h⟩
      · cases h

theorem mem_statements_iff : d ∈ s.statements ↔ ∃ list, s.Scope list ∧ d ∈ list := by
  constructor
  · exact exists_scope_of_mem_statements
  · rintro ⟨list, hscope, hd⟩
    rwa [hscope.statements_eq]

theorem Precedes.mem (h : s.Precedes list d) : d ∈ list := by
  cases h with
  | inList _ hk _ => exact List.mem_of_getElem? hk
  | ahead _ hd => exact hd

/-- A statement that does not stand before its list stands in it. -/
theorem Scope.mem_list (h : s.Scope list) (hangs : ∀ p ∈ s.parent, s.node ∈ p.children)
    (hin : ¬s.IsAhead) : s.node ∈ list := by
  cases h with
  | block _ hedge => exact List.mem_filter.mpr ⟨hangs _ rfl, by simp [hedge]⟩
  | caseBody _ hedge => exact List.mem_filter.mpr ⟨hangs _ rfl, by simp [hedge]⟩
  | commBody _ hedge => exact List.mem_filter.mpr ⟨hangs _ rfl, by simp [hedge]⟩
  | comm _ hedge => exact absurd (.inl hedge) hin
  | init _ hedge _ => exact absurd (.inr hedge) hin

/-! ## Source order -/

/-- In source order every statement of a list ends before all later ones start. -/
theorem pairwise_of_isChain {list : List Node}
    (forward : ∀ d ∈ list, d.span.start ≤ d.span.stop)
    (apart : list.IsChain fun a b => a.span.stop < b.span.start) :
    list.Pairwise fun a b => a.span.stop < b.span.start := by
  induction list with
  | nil => exact .nil
  | cons a list ih =>
      have hlater := ih (fun d hd => forward d (List.mem_cons_of_mem a hd)) apart.tail
      refine List.pairwise_cons.mpr ⟨?_, hlater⟩
      intro d hd
      cases list with
      | nil => cases hd
      | cons b list =>
          have hab : a.span.stop < b.span.start := apart.rel
          rcases List.mem_cons.mp hd with rfl | hd
          · exact hab
          · calc
              a.span.stop < b.span.start := hab
              _ ≤ b.span.stop := forward b (by simp)
              _ < d.span.start := (List.pairwise_cons.mp hlater).1 d hd

namespace InSourceOrder

theorem pairwise (h : s.InSourceOrder list) :
    list.Pairwise fun a b => a.span.stop < b.span.start :=
  pairwise_of_isChain (fun d hd => h.forward d (List.mem_cons_of_mem _ hd)) h.apart

/-- What stands before the list ends before all of it starts. -/
theorem stop_lt_of_isAhead (h : s.InSourceOrder list) (hahead : s.IsAhead) (hd : d ∈ list) :
    s.node.span.stop < d.span.start := by
  cases list with
  | nil => cases hd
  | cons a list =>
      have ha : s.node.span.stop < a.span.start := h.ahead hahead a rfl
      rcases List.mem_cons.mp hd with rfl | hd
      · exact ha
      · calc
          s.node.span.stop < a.span.start := ha
          _ ≤ a.span.stop := h.forward a (by simp)
          _ < d.span.start := (List.pairwise_cons.mp h.pairwise).1 d hd

/-- In source order, comparing positions is comparing places in the list. -/
theorem stop_lt_start_iff (h : s.InSourceOrder list) (hscope : s.Scope list)
    (hangs : ∀ p ∈ s.parent, s.node ∈ p.children) (hd : d ∈ list) :
    s.node.span.stop < d.span.start ↔ s.Precedes list d := by
  have hpairwise := List.pairwise_iff_getElem.mp h.pairwise
  constructor
  · intro hlt
    by_cases hahead : s.IsAhead
    · exact .ahead hahead hd
    · obtain ⟨i, hi, hs⟩ := List.mem_iff_getElem.mp (hscope.mem_list hangs hahead)
      obtain ⟨k, hk, rfl⟩ := List.mem_iff_getElem.mp hd
      refine .inList (List.getElem?_eq_some_iff.mpr ⟨hi, hs⟩) (List.getElem?_eq_getElem hk) ?_
      -- Neither the statement itself nor one before it starts after the statement's end.
      have hforward := h.forward list[k] (by simp)
      rcases Nat.lt_trichotomy i k with hik | rfl | hki
      · exact hik
      · rw [hs] at hlt hforward
        exact absurd hlt (Int.not_lt.mpr hforward)
      · have hbefore : list[k].span.stop < s.node.span.start := hs ▸ hpairwise k i hk hi hki
        have hle : list[k].span.start ≤ s.node.span.stop := by
          calc
            list[k].span.start ≤ list[k].span.stop := hforward
            _ ≤ s.node.span.start := Int.le_of_lt hbefore
            _ ≤ s.node.span.stop := h.forward s.node (by simp)
        exact absurd hlt (Int.not_lt.mpr hle)
  · rintro (⟨hi, hk, hik⟩ | ⟨hahead, -⟩)
    · obtain ⟨hi, hs⟩ := List.getElem?_eq_some_iff.mp hi
      obtain ⟨hk, hd⟩ := List.getElem?_eq_some_iff.mp hk
      have hlt := hpairwise _ _ hi hk hik
      rwa [hs, hd] at hlt
    · exact h.stop_lt_of_isAhead hahead hd

end InSourceOrder

end Site

/-! ## Deferred releases -/

/-- `d.Defers call`: the statement defers the call. -/
def Node.Defers (d call : Node) : Prop :=
  d.form = .deferStmt ∧ d.child? .call = some call

namespace Closers

variable {c : Closers} {v : ObjectId}

/-- A statement defers a release if it defers a release call and starts after the end of the
statement that binds the variable, or if it defers a function literal that releases it. -/
theorem defersRelease_iff {stmt d : Node} :
    c.defersRelease stmt v d ↔
      ∃ call, d.Defers call ∧
        (stmt.span.stop < d.span.start ∧ c.ReleaseCall v call ∨ c.ReleaseLiteral v call) := by
  simp only [defersRelease, Node.Defers, Bool.and_eq_true, Bool.or_eq_true, decide_eq_true_eq,
    Option.any_eq_true, releases_iff, releasesInLiteral_iff, gt_iff_lt, and_assoc,
    exists_and_left]

theorem isReleased_iff {p : Program} {s : Site} {id : Node} :
    c.isReleased p s id ↔
      ∃ v list, id.object? = some v ∧ p.isVariable v ∧ s.Scope list ∧
        ∃ d ∈ list, c.defersRelease s.node v d := by
  rw [isReleased]
  cases id.object? with
  | none => simp
  | some v =>
      simp only [Bool.and_eq_true, List.any_eq_true, Site.mem_statements_iff, Option.some.injEq]
      constructor
      · rintro ⟨hvar, d, ⟨list, hscope, hd⟩, hrelease⟩
        exact ⟨v, list, rfl, hvar, hscope, d, hd, hrelease⟩
      · rintro ⟨_, list, rfl, hvar, hscope, d, hd, hrelease⟩
        exact ⟨hvar, d, ⟨list, hscope, hd⟩, hrelease⟩

/-- **Releases are found by their place in the list.**  In source order, the variable of an
identifier is released in the scope of a statement exactly when a release call is deferred that the
statement precedes, or a function literal with a release call is deferred anywhere in the list.  A
statement starts after the end of the site's statement exactly when that statement precedes it. -/
theorem isReleased_iff_deferred (c : Closers) (p : Program) (s : Site) (id : Node)
    (hangs : ∀ parent ∈ s.parent, s.node ∈ parent.children)
    (order : ∀ list, s.Scope list → s.InSourceOrder list) :
    (c.isReleased p s id ↔
      ∃ v list, id.object? = some v ∧ p.isVariable v ∧ s.Scope list ∧
        ∃ d call, d.Defers call ∧
          (s.Precedes list d ∧ c.ReleaseCall v call ∨ d ∈ list ∧ c.ReleaseLiteral v call)) ∧
      ∀ list, s.Scope list → ∀ d ∈ list,
        (s.node.span.stop < d.span.start ↔ s.Precedes list d) := by
  have hplace : ∀ list, s.Scope list → ∀ d ∈ list,
      (s.node.span.stop < d.span.start ↔ s.Precedes list d) := by
    intro list hscope d hd
    exact (order list hscope).stop_lt_start_iff hscope hangs hd
  refine ⟨?_, hplace⟩
  simp only [isReleased_iff, defersRelease_iff]
  constructor
  · rintro ⟨v, list, hid, hvar, hscope, d, hd, call, hdefers, h⟩
    refine ⟨v, list, hid, hvar, hscope, d, call, hdefers, ?_⟩
    rcases h with ⟨hlt, hcall⟩ | hliteral
    · exact .inl ⟨(hplace list hscope d hd).mp hlt, hcall⟩
    · exact .inr ⟨hd, hliteral⟩
  · rintro ⟨v, list, hid, hvar, hscope, d, call, hdefers, h⟩
    rcases h with ⟨hprecedes, hcall⟩ | ⟨hd, hliteral⟩
    · have hd := hprecedes.mem
      have hlt := (hplace list hscope d hd).mpr hprecedes
      exact ⟨v, list, hid, hvar, hscope, d, hd, call, hdefers, .inl ⟨hlt, hcall⟩⟩
    · exact ⟨v, list, hid, hvar, hscope, d, hd, call, hdefers, .inr hliteral⟩

namespace Sample

/-! The variable of `x := open(); defer (x.Close)()` is released. -/

/-- `x` where it is declared, as the first object of the program. -/
def declared : Node :=
  ⟨.lhs, .ident "x" (some 0) none, ⟨1, 2⟩, none, []⟩

/-- `x := open()`. -/
def binding : Node :=
  ⟨.list, .assign .define, ⟨1, 12⟩, none, [declared, ⟨.rhs, .call, ⟨6, 12⟩, none, []⟩]⟩

/-- `x` where it is referred to. -/
def operand : Node :=
  ⟨.operand, .ident "x" none (some 0), ⟨21, 22⟩, none, []⟩

/-- `x.Close`. -/
def selector : Node :=
  ⟨.operand, .selector (some .method), ⟨21, 28⟩, none,
    [operand, ⟨.selected, .ident "Close" none none, ⟨23, 28⟩, none, []⟩]⟩

/-- `(x.Close)()`. -/
def call : Node :=
  ⟨.call, .call, ⟨20, 31⟩, none, [⟨.callee, .paren, ⟨20, 29⟩, none, [selector]⟩]⟩

/-- `defer (x.Close)()`. -/
def release : Node :=
  ⟨.list, .deferStmt, ⟨14, 31⟩, none, [call]⟩

def site : Site :=
  ⟨some ⟨.body, .block, ⟨0, 32⟩, none, [binding, release]⟩, binding⟩

def program : Program :=
  ⟨⟨#[]⟩, #[⟨.var .inBlock, "x", none⟩], #[], 0, []⟩

def closers : Closers :=
  ⟨⟨#[]⟩, [{ methods := [⟨⟨"Close", none⟩, ⟨[], [.error], false⟩, false⟩] }]⟩

theorem inSourceOrder {list : List Node} (h : site.Scope list) : site.InSourceOrder list := by
  obtain rfl : [binding, release] = list := h.statements_eq
  refine ⟨by decide, ?_, ?_⟩
  · exact .cons_cons (by decide) (.singleton _)
  · rintro (h | h) <;> cases h

theorem releaseCall : closers.ReleaseCall 0 call := by
  refine ⟨selector, ⟨_, rfl, .paren (.bare (by decide))⟩, ⟨_, rfl⟩, ?_, ?_⟩
  · exact ⟨_, "Close", none, none, rfl, rfl, by decide +kernel⟩
  · exact ⟨operand, operand, "x", none, rfl, .bare (by decide), rfl⟩

theorem isReleased_declared :
    (∀ parent ∈ site.parent, site.node ∈ parent.children) ∧
      (∀ list, site.Scope list → site.InSourceOrder list) ∧
      closers.isReleased program site declared := by
  have hangs : ∀ parent ∈ site.parent, site.node ∈ parent.children := by
    rintro _ ⟨⟩
    exact List.mem_cons_self
  have order : ∀ list, site.Scope list → site.InSourceOrder list := fun _ h => inSourceOrder h
  have h := isReleased_iff_deferred closers program site declared hangs order
  refine ⟨hangs, order, h.1.mpr ⟨0, _, rfl, rfl, .block rfl rfl, release, call, ⟨rfl, rfl⟩, ?_⟩⟩
  exact .inl ⟨.inList (i := 0) (k := 1) rfl rfl (by decide), releaseCall⟩

end Sample

end Closers

end Unclosed

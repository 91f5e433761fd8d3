import ContainerBuilder.BuilderQueue.Status
import ContainerBuilder.Builder.Main
import ContainerBuilder.Lib.Lines

/-!
# `cb-status` and `cb-images` (`Client/src/status.cpp`, `Client/src/images.cpp`)

Two small clients send one request to the queue and print what comes back, the status as two lists
of builders, the images as they are. Whatever they throw is logged. `status_shown`: `cb-status` shows
a state of the queue as a whole or not at all, wherever the connection breaks; and what it shows is
the state of no other queue.

| here | there |
| --- | --- |
| `Query.parseEnvironment`  | `parse_environment` (both files) |
| `Status.printStatus`      | `print_status` (`status.cpp:41-76`) |
| `Images.printImages`      | the end of the `try` block (`images.cpp:56-68`) |
| `Status.main`, `Images.main` | `main` (`status.cpp:78`, `images.cpp:39`) |

`shown` is what they write to `std::cout`, but for the animations.
-/

namespace ContainerBuilder

open Lib

/-! ## The state and the system -/

inductive QueryException
  | main (ex : MainException)
  /-- `pt::json_parser_error` -/
  | jsonParserError
  /-- `pt::ptree_bad_path` -/
  | badPath (path : Bytes)
deriving DecidableEq, Repr

structure QueryMain where
  userId : Bytes
  queueHost : Bytes
  arrivals : List Arrival
  shown : Bytes

structure QueryCalls where
  /-- `getpwuid(getuid())` -/
  loginName : Option Bytes
  /-- `getenv("QUEUE_HOST")` -/
  queueHost : Option Bytes
  /-- Whether the thread of the animation with this message can be started. -/
  threadError : Bytes → ErrorCode
  queue : Bytes → Connecting
  /-- `queue_stream.write` of a message -/
  writeToQueue : Bytes → ErrorCode
  readJson : Bytes → Option Ptree
  /-- Whether a label is written before `get` throws, which is unspecified. -/
  labelFirst : Bool
  closeQueue : ErrorCode

abbrev Query := CallM (Stop QueryException) QueryMain Unit

namespace Query

def throws (x : QueryMain) (ex : QueryException) :
    Except (Stop QueryException) Unit × QueryMain := (.error (.threw ex), x)

def thrown (x : QueryMain) (ex : Thrown) : Except (Stop QueryException) Unit × QueryMain :=
  throws x (.main (.thrown ex))

def systemCall (error : ErrorCode) : Query :=
  call fun x =>
    match error with
    | some value => thrown x (.systemError value)
    | none => (.ok (), x)

def parseEnvironment (c : QueryCalls) : Query :=
  call fun x =>
    match c.loginName, c.queueHost with
    | none, _ =>
      thrown x (.exception (.runtimeError (ascii "Error get login name for client data!")))
    | some name, none =>
      thrown { x with userId := name } (.exception (.runtimeError (ascii "QUEUE_HOST not set!")))
    | some name, some host => (.ok (), { x with userId := name, queueHost := host })

def connectQueue (c : QueryCalls) : Query :=
  call fun x => exec (systemCall (c.queue x.queueHost).error) x

/-- Writes a request and reads the answer, which `f` goes on with. -/
def ask (c : QueryCalls) (request : Bytes) (f : Bytes → Query) : Query :=
  call fun x =>
    match c.writeToQueue request with
    | some value => thrown x (.systemError value)
    | none =>
      match Builder.readText [] x.arrivals with
      | .error (.threw ex) => throws x (.main ex)
      | .error (.ended e) => (.error (.ended e), x)
      | .ok (answer, arrivals) => exec (f answer) { x with arrivals := arrivals }

/-- `std::cout << text` -/
def print (text : Bytes) : Query := call fun x => (.ok (), { x with shown := x.shown ++ text })

end Query

/-! ## `cb-status` -/

namespace Status

open Query

/-- `std::cout << label << builder.second.get<std::string>(key) << std::endl` -/
def printField (c : QueryCalls) (label key : Bytes) (builder : Ptree) : Query :=
  call fun x =>
    match builder.get key with
    | some value => exec (print (label ++ value ++ [10])) x
    | none =>
      throws (if c.labelFirst then { x with shown := x.shown ++ label } else x) (.badPath key)

def printBuilder (c : QueryCalls) (builder : Ptree) : Query := do
  printField c (ascii "ID: ") (ascii "id") builder
  printField c (ascii "HOST: ") (ascii "host") builder
  printField c (ascii "PORT: ") (ascii "port") builder
  print (ascii "-------------\n")

def printEach (c : QueryCalls) : List (Bytes × Ptree) → Query
  | [] => pure ()
  | builder :: builders => do
    printBuilder c builder.2
    printEach c builders

/-- A title, and the builders under `key`. -/
def printBuilders (c : QueryCalls) (title key : Bytes) (statusTree : Ptree) : Query := do
  print title
  call fun x =>
    match statusTree.getChild key with
    | some list => exec (printEach c list.children) x
    | none => throws x (.badPath key)

def activeTitle : Bytes := ascii "-------------\nActive builders\n-------------\n\n"
def reserveTitle : Bytes := ascii "\n-------------\nReserve builders\n-------------\n\n"

def printTree (c : QueryCalls) (queueStatusString : Bytes) : Query :=
  match c.readJson queueStatusString with
  | none => call fun x => throws x .jsonParserError
  | some statusTree => do
    printBuilders c activeTitle (ascii "active") statusTree
    printBuilders c reserveTitle (ascii "reserve") statusTree

def printStatus (c : QueryCalls) : Query := ask c (ascii "queue_status_request") (printTree c)

end Status

inductive QueryStep
  | parseEnvironment
  | wait (message : Bytes)
  | connectQueue
  | print
deriving DecidableEq, Repr

/-- A step; the last one is `print`. -/
def QueryStep.call (c : QueryCalls) (print : Query) : QueryStep → Query
  | .parseEnvironment => Query.parseEnvironment c
  | .wait message => Query.systemCall (c.threadError message)
  | .connectQueue => Query.connectQueue c
  | .print => print

/-- The `try` block, and the close. -/
def Query.main (c : QueryCalls) (print : Query) (steps : List QueryStep) :
    CallM Ended QueryMain Nat := do
  catchAll (inOrder (QueryStep.call c print) steps)
  catchAll (systemCall c.closeQueue)
  pure 0

def Status.main (c : QueryCalls) : CallM Ended QueryMain Nat :=
  Query.main c (Status.printStatus c)
    [.parseEnvironment, .wait (ascii "Connecting to BuilderQueue"), .connectQueue, .print]

/-! ## `cb-images` -/

/-- The images are printed as they are; `wait_images` is constructed first. -/
def Images.printImages (c : QueryCalls) : Query :=
  Query.ask c (ascii "image_list_request") Query.print

def Images.main (c : QueryCalls) : CallM Ended QueryMain Nat :=
  Query.main c (Images.printImages c)
    [.parseEnvironment, .wait (ascii "Connecting to BuilderQueue"), .connectQueue,
      .wait (ascii "Requesting image list"), .print]

/-! ## What is shown -/

/-- A builder as `cb-status` shows it. -/
def builderLines (builder : BuilderData) : List Bytes :=
  [ascii "ID: " ++ builder.id, ascii "HOST: " ++ builder.host, ascii "PORT: " ++ builder.port,
    ascii "-------------"]

/-- What `cb-status` shows of a queue. -/
def statusLines (active reserve : List BuilderData) : List Bytes :=
  [ascii "-------------", ascii "Active builders", ascii "-------------", []] ++
    active.flatMap builderLines ++
      ([] :: [ascii "-------------", ascii "Reserve builders", ascii "-------------", []] ++
        reserve.flatMap builderLines)

section
variable {c : QueryCalls} {x x₀ : QueryMain} {H : Type}

theorem exec_print (text : Bytes) :
    exec (Query.print text) x = (.ok (), { x with shown := x.shown ++ text }) := rfl

/-- A builder of the queue is printed. -/
theorem exec_printBuilder (builder : BuilderData) :
    exec (Status.printBuilder c (builderNode builder)) x =
      (.ok (), { x with shown := x.shown ++ unlines 10 (builderLines builder) }) := by
  have hdashes : ascii "-------------\n" = ascii "-------------" ++ [10] := by decide
  simp only [Status.printBuilder, Status.printField, exec_bind, exec_call, exec_print,
    show (builderNode builder).get (ascii "id") = some builder.id from rfl,
    show (builderNode builder).get (ascii "host") = some builder.host from rfl,
    show (builderNode builder).get (ascii "port") = some builder.port from rfl, builderLines,
    unlines_cons, unlines_nil, hdashes, List.append_assoc, List.cons_append, List.nil_append]

theorem exec_printEach (builders : List BuilderData) :
    exec (Status.printEach c (builders.map fun builder => ([], builderNode builder))) x =
      (.ok (), { x with shown := x.shown ++ unlines 10 (builders.flatMap builderLines) }) := by
  induction builders generalizing x with
  | nil => simp [Status.printEach]
  | cons builder builders ih =>
    simp only [List.map_cons, Status.printEach, exec_bind, exec_printBuilder, ih, List.flatMap_cons,
      unlines_append, List.append_assoc]

theorem exec_printBuilders {title key : Bytes} {statusTree : Ptree} {builders : List BuilderData}
    (h : statusTree.getChild key = some (buildersTree builders)) :
    exec (Status.printBuilders c title key statusTree) x =
      (.ok (), { x with
        shown := x.shown ++ title ++ unlines 10 (builders.flatMap builderLines) }) := by
  simp only [Status.printBuilders, exec_bind, exec_print, exec_call, h, buildersTree_eq,
    Ptree.children, exec_printEach]

/-- The whole status is printed. -/
theorem exec_printTree {q : BuilderQueue H} {text : Bytes}
    (hread : c.readJson text = some q.statusTree) :
    exec (Status.printTree c text) x = (.ok (), { x with
      shown := x.shown ++ unlines 10 (statusLines q.activeBuilders q.reserveBuilders) }) := by
  have hactive : q.statusTree.getChild (ascii "active") = some (buildersTree q.activeBuilders) := rfl
  have hreserve : q.statusTree.getChild (ascii "reserve") = some (buildersTree q.reserveBuilders) :=
    rfl
  have htitles : Status.activeTitle = unlines 10 [ascii "-------------", ascii "Active builders",
        ascii "-------------", []] ∧
      Status.reserveTitle = unlines 10 ([] :: [ascii "-------------", ascii "Reserve builders",
        ascii "-------------", []]) := by decide +kernel
  rw [Status.printTree, hread]
  simp only [exec_bind, exec_printBuilders hactive, exec_printBuilders hreserve]
  rw [statusLines, unlines_append, unlines_append, unlines_append, htitles.1, htitles.2]
  simp only [List.append_assoc]

/-- The streams are closed in the state that the `try` block leaves. -/
theorem query_main_state (print : Query) (steps : List QueryStep) :
    (exec (Query.main c print steps) x).2 = (exec (inOrder (QueryStep.call c print) steps) x).2 := by
  have hclose : ∀ y, (exec (catchAll (Query.systemCall c.closeQueue)) y).2 = y := by
    intro y
    rw [exec_catchAll_state, Query.systemCall, exec_call]
    split
    · rfl
    · rfl
  rw [← exec_catchAll_state]
  let I : QueryMain → Prop := fun y =>
    y = (exec (catchAll (inOrder (QueryStep.call c print) steps)) x).2
  have hmain : I (exec (Query.main c print steps) x).2 := by
    unfold Query.main
    refine exec_bind_inv rfl fun _ y _ (hy : I y) => ?_
    exact exec_bind_inv ((hclose y).trans hy) fun _ y' _ hy' => hy'
  exact hmain

/-- The steps before the last one neither read nor print. -/
theorem query_step_keeps (print : Query) {k : QueryStep} (hk : k ≠ .print) :
    (exec (k.call c print) x).2.arrivals = x.arrivals ∧
      (exec (k.call c print) x).2.shown = x.shown := by
  cases k with
  | print => exact absurd rfl hk
  | parseEnvironment =>
    simp only [QueryStep.call, Query.parseEnvironment, exec_call]
    split
    · exact ⟨rfl, rfl⟩
    · exact ⟨rfl, rfl⟩
    · exact ⟨rfl, rfl⟩
  | wait message =>
    simp only [QueryStep.call, Query.systemCall, exec_call]
    split
    · exact ⟨rfl, rfl⟩
    · exact ⟨rfl, rfl⟩
  | connectQueue =>
    simp only [QueryStep.call, Query.connectQueue, Query.systemCall, exec_call]
    split
    · exact ⟨rfl, rfl⟩
    · exact ⟨rfl, rfl⟩

/-- What is asked for is printed from the whole answer, or not at all. -/
theorem ask_shown {request text : Bytes} {f : Bytes → Query}
    (hd : Delivers Arrival.frame (message text) x.arrivals) :
    (exec (Query.ask c request f) x).2.shown = x.shown ∨
      ∃ y, y.shown = x.shown ∧
        (exec (Query.ask c request f) x).2.shown = (exec (f text) y).2.shown := by
  unfold Query.ask
  rw [exec_call]
  cases c.writeToQueue request with
  | some value => exact .inl rfl
  | none =>
    cases hread : Builder.readText [] x.arrivals with
    | error stop =>
      cases stop with
      | threw ex => exact .inl rfl
      | ended e => exact .inl rfl
    | ok r =>
      obtain ⟨answer, arrivals⟩ := r
      obtain ⟨more, hmore, rfl⟩ := Builder.readText_reads hread
      have hts : message text <+: message text ++ [] := by rw [List.append_nil]
      obtain ⟨rfl, -⟩ := hd.reads hts hmore
      exact .inr ⟨{ x with arrivals := arrivals }, rfl, rfl⟩

/-- Of such a client the same is true. -/
theorem query_shown {request text : Bytes} {f : Bytes → Query} {steps : List QueryStep}
    (hsteps : .print ∉ steps) (hd : Delivers Arrival.frame (message text) x₀.arrivals) :
    (exec (Query.main c (Query.ask c request f) (steps ++ [.print])) x₀).2.shown = x₀.shown ∨
      ∃ y, y.shown = x₀.shown ∧
        (exec (Query.main c (Query.ask c request f) (steps ++ [.print])) x₀).2.shown =
          (exec (f text) y).2.shown := by
  have hbefore : (exec (inOrder (QueryStep.call c (Query.ask c request f)) steps) x₀).2.arrivals =
      x₀.arrivals ∧
        (exec (inOrder (QueryStep.call c (Query.ask c request f)) steps) x₀).2.shown = x₀.shown := by
    refine exec_inOrder_inv (I := fun y : QueryMain => y.arrivals = x₀.arrivals ∧ y.shown = x₀.shown)
      (fun k hk y hy => ?_) ⟨rfl, rfl⟩
    obtain ⟨harrivals, hshown⟩ := query_step_keeps (c := c) (x := y) (Query.ask c request f)
      (ne_of_mem_of_not_mem hk hsteps)
    exact ⟨harrivals.trans hy.1, hshown.trans hy.2⟩
  rw [query_main_state, exec_inOrder_append, exec_bind]
  cases hexec : exec (inOrder (QueryStep.call c (Query.ask c request f)) steps) x₀ with
  | mk a x =>
    rw [hexec] at hbefore
    cases a with
    | error stop => exact .inl hbefore.2
    | ok a =>
      have hlast : (exec (inOrder (QueryStep.call c (Query.ask c request f)) [.print]) x).2 =
          (exec (Query.ask c request f) x).2 := by
        refine exec_bind_inv (I := fun y : QueryMain => y = (exec (Query.ask c request f) x).2)
          rfl fun _ y _ hy => hy
      simp only [hlast]
      rcases ask_shown (c := c) (f := f) (hbefore.1 ▸ hd) with hnone | ⟨y, hy, hall⟩
      · exact .inl (hnone.trans hbefore.2)
      · exact .inr ⟨y, hy.trans hbefore.2, hall⟩

end

/-- No string of the builder has a line end. -/
def BuilderData.OneLine (builder : BuilderData) : Prop :=
  10 ∉ builder.id ∧ 10 ∉ builder.host ∧ 10 ∉ builder.port

/-- A list that ends at an empty line is read off its lines. -/
theorem builderLines_inj {builders builders' : List BuilderData} {rest rest' : List Bytes}
    (h : builders.flatMap builderLines ++ [] :: rest =
      builders'.flatMap builderLines ++ [] :: rest') : builders = builders' ∧ rest = rest' := by
  have hid : ∀ id : Bytes, ascii "ID: " ++ id ≠ [] := fun id he =>
    absurd (List.append_eq_nil_iff.1 he).1 (by decide)
  induction builders generalizing builders' with
  | nil =>
    cases builders' with
    | nil => exact ⟨rfl, (List.cons.inj h).2⟩
    | cons b' builders' => exact absurd (List.cons.inj h).1.symm (hid _)
  | cons b builders ih =>
    cases builders' with
    | nil => exact absurd (List.cons.inj h).1 (hid _)
    | cons b' builders' =>
      simp only [List.flatMap_cons, builderLines, List.cons_append, List.nil_append, List.cons.injEq,
        List.append_cancel_left_eq, true_and] at h
      obtain ⟨hb, hhost, hport, hrest⟩ := h
      obtain ⟨rfl, rfl⟩ := ih hrest
      have hsame : b = b' := by
        cases b
        cases b'
        simp only at hb hhost hport
        rw [hb, hhost, hport]
      exact ⟨by rw [hsame], rfl⟩

theorem builderLines_oneLine {builders : List BuilderData}
    (h : ∀ builder ∈ builders, builder.OneLine) :
    ∀ line ∈ builders.flatMap builderLines, 10 ∉ line := by
  have hlabels : 10 ∉ ascii "ID: " ∧ 10 ∉ ascii "HOST: " ∧ 10 ∉ ascii "PORT: " ∧
      10 ∉ ascii "-------------" := by decide
  intro line hline
  obtain ⟨builder, hb, hin⟩ := List.mem_flatMap.1 hline
  obtain ⟨hid, hhost, hport⟩ := h builder hb
  simp only [builderLines, List.mem_cons, List.not_mem_nil, or_false] at hin
  rcases hin with rfl | rfl | rfl | rfl
  · simp [hlabels, hid]
  · simp [hlabels, hhost]
  · simp [hlabels, hport]
  · exact hlabels.2.2.2

theorem statusLines_oneLine {active reserve : List BuilderData}
    (hactive : ∀ builder ∈ active, builder.OneLine)
    (hreserve : ∀ builder ∈ reserve, builder.OneLine) :
    ∀ line ∈ statusLines active reserve, 10 ∉ line := by
  have htitles : ∀ line ∈ [ascii "-------------", ascii "Active builders", ascii "-------------",
      []] ++ [] :: [ascii "-------------", ascii "Reserve builders", ascii "-------------", []],
        10 ∉ line := by decide
  intro line hline
  simp only [statusLines, List.mem_append] at hline
  rcases hline with (hfirst | hshown) | (hsecond | hshown)
  · exact htitles line (List.mem_append_left _ hfirst)
  · exact builderLines_oneLine hactive line hshown
  · exact htitles line (List.mem_append_right _ hsecond)
  · exact builderLines_oneLine hreserve line hshown

/-- The lists can be read off the lines. -/
theorem statusLines_inj {active reserve active' reserve' : List BuilderData}
    (h : statusLines active reserve = statusLines active' reserve') :
    active = active' ∧ reserve = reserve' := by
  simp only [statusLines, List.cons_append, List.nil_append, List.cons.injEq, true_and] at h
  obtain ⟨rfl, hrest⟩ := builderLines_inj h
  simp only [List.cons.injEq, true_and] at hrest
  -- the second list ends at the end of the lines
  have hend : reserve.flatMap builderLines ++ [] :: [] =
      reserve'.flatMap builderLines ++ [] :: [] := by rw [hrest]
  exact ⟨rfl, (builderLines_inj hend).1⟩

/-- Nothing fails in `cb-status` before the answer has been read. -/
structure Status.Answered (c : QueryCalls) (x : QueryMain) (text : Bytes) : Prop where
  loginName : c.loginName.isSome = true
  queue : ∃ host, c.queueHost = some host ∧ (c.queue host).error = none
  thread : c.threadError (ascii "Connecting to BuilderQueue") = none
  write : c.writeToQueue (ascii "queue_status_request") = none
  read : ∃ rest, readMessage Arrival.frame x.arrivals = some (text, rest)

/-- What `cb-status` shows when nothing fails. -/
theorem Status.Answered.shown {H : Type} {c : QueryCalls} {x : QueryMain} {q : BuilderQueue H}
    {text : Bytes} (h : Status.Answered c x text) (htree : c.readJson text = some q.statusTree) :
    (exec (Status.main c) x).2.shown =
      x.shown ++ unlines 10 (statusLines q.activeBuilders q.reserveBuilders) := by
  obtain ⟨name, hname⟩ := Option.isSome_iff_exists.1 h.loginName
  obtain ⟨host, hhost, hqueue⟩ := h.queue
  obtain ⟨rest, hrest⟩ := h.read
  have hread : Builder.readText [] x.arrivals = .ok ([] ++ text, rest) :=
    Builder.readText_of_reads hrest
  rw [Status.main, query_main_state]
  simp only [inOrder, exec_bind, QueryStep.call, Query.parseEnvironment, Query.systemCall,
    Query.connectQueue, Status.printStatus, Query.ask, exec_call, hname, hhost, h.thread, hqueue,
    h.write, hread, List.nil_append, exec_printTree htree, exec_pure]

/-- **The status is shown as a whole or not at all.** Whatever fails and wherever the connection
breaks, `cb-status` shows nothing or the lists of the queue's state, and these if nothing fails; and
of the states whose strings have no line ends no other is shown so. -/
theorem status_shown {H : Type} {c : QueryCalls}
    (hread : ∀ text tree, readForms text = some tree → c.readJson text = some tree)
    {q : BuilderQueue H} (hascii : ∀ builder ∈ q.activeBuilders ++ q.reserveBuilders, builder.Ascii)
    {text : Bytes} (htext : q.statusJson = some text) {x₀ : QueryMain}
    (hd : Delivers Arrival.frame (message text) x₀.arrivals) :
    let lines := fun q : BuilderQueue H => unlines 10 (statusLines q.activeBuilders q.reserveBuilders)
    ((exec (Status.main c) x₀).2.shown = x₀.shown ∨
      (exec (Status.main c) x₀).2.shown = x₀.shown ++ lines q) ∧
    (Status.Answered c x₀ text → (exec (Status.main c) x₀).2.shown = x₀.shown ++ lines q) ∧
    ∀ q' : BuilderQueue H,
      (∀ builder ∈ q.activeBuilders ++ q.reserveBuilders, builder.OneLine) →
      (∀ builder ∈ q'.activeBuilders ++ q'.reserveBuilders, builder.OneLine) →
      lines q' = lines q →
      q'.activeBuilders = q.activeBuilders ∧ q'.reserveBuilders = q.reserveBuilders := by
  intro lines
  have htree : c.readJson text = some q.statusTree :=
    hread _ _ (readForms_writeJson (statusTree_ascii hascii) htext)
  refine ⟨?_, fun h => h.shown htree, fun q' hlines hlines' he => ?_⟩
  · have hsteps : QueryStep.print ∉ [QueryStep.parseEnvironment,
        .wait (ascii "Connecting to BuilderQueue"), .connectQueue] := by simp
    rcases query_shown (c := c) (f := Status.printTree c) hsteps hd with hnone | ⟨y, hy, hall⟩
    · exact .inl hnone
    · rw [exec_printTree htree] at hall
      simp only [hy] at hall
      exact .inr hall
  · have hof : ∀ {q : BuilderQueue H},
        (∀ builder ∈ q.activeBuilders ++ q.reserveBuilders, builder.OneLine) →
          ∀ line ∈ statusLines q.activeBuilders q.reserveBuilders, 10 ∉ line := fun h =>
      statusLines_oneLine (fun b hb => h b (List.mem_append_left _ hb))
        fun b hb => h b (List.mem_append_right _ hb)
    exact statusLines_inj (unlines_inj (hof hlines') (hof hlines) he)

/-- Nothing fails. -/
def quietCalls : QueryCalls where
  loginName := some (ascii "me")
  queueHost := some (ascii "queue")
  threadError _ := none
  queue _ := ⟨none, none, none⟩
  writeToQueue _ := none
  readJson := readForms
  labelFirst := true
  closeQueue := none

/-- A builder whose strings need escapes is shown with them undone. -/
theorem status_shown_odd : ∃ text, oddQueue.statusJson = some text ∧
    (exec (Status.main quietCalls) ⟨[], [], [.piece ⟨true, text⟩ none], []⟩).2.shown =
      unlines 10 (statusLines oddQueue.activeBuilders oddQueue.reserveBuilders) := by
  have hascii : ∀ builder ∈ oddQueue.activeBuilders ++ oddQueue.reserveBuilders,
      builder.Ascii := by
    intro builder hb
    obtain rfl := List.mem_singleton.1 hb
    exact ⟨by decide, by decide, by decide⟩
  obtain ⟨text, htext⟩ : ∃ text, oddQueue.statusJson = some text := ⟨_, rfl⟩
  have hd : Delivers Arrival.frame (message text) [.piece ⟨true, text⟩ none] := by
    have htokens : message text = Frame.tokens ⟨true, text⟩ ++ [] := by simp
    rw [htokens]
    exact .piece rfl (.breaks nofun)
  refine ⟨text, htext, ?_⟩
  exact (status_shown (fun _ _ h => h) hascii htext hd).2.1
    ⟨rfl, ⟨_, rfl, rfl⟩, rfl, rfl, ⟨[], rfl⟩⟩

/-- The list of images, too, is shown as a whole or not at all. -/
theorem images_shown {c : QueryCalls} {text : Bytes} {x₀ : QueryMain}
    (hd : Delivers Arrival.frame (message text) x₀.arrivals) :
    (exec (Images.main c) x₀).2.shown = x₀.shown ∨
      (exec (Images.main c) x₀).2.shown = x₀.shown ++ text := by
  have hsteps : QueryStep.print ∉ [QueryStep.parseEnvironment,
      .wait (ascii "Connecting to BuilderQueue"), .connectQueue,
      .wait (ascii "Requesting image list")] := by simp
  rcases query_shown (c := c) (f := Query.print) hsteps hd with hnone | ⟨y, hy, hall⟩
  · exact .inl hnone
  · rw [exec_print] at hall
    simp only [hy] at hall
    exact .inr hall

end ContainerBuilder

import TransportGen.Service.Imports
import TransportGen.SourceFile
import TransportGen.View

/-!
# The mock of a service

`mock.rs` implements the trait by recording the arguments of each call and asking a responder for
the answer.
-/

namespace TransportGen.Artifact

/-- The alias of a method's recorded arguments. -/
def argsAlias (m : MethodView) : String := m.pascal ++ "Args"

/-- The item that defines the alias. -/
def argsItem (m : MethodView) : Item :=
  ⟨.type (argsAlias m), false,
    ["/// Arguments recorded for one `" ++ m.name ++ "` call",
      "pub type " ++ argsAlias m ++ " = " ++ m.argsType ++ ";"]⟩

/-- The fields of the mock for a method. -/
def mockFields (m : MethodView) : Code :=
  [m.name ++ "_calls: Mutex<Vec<" ++ argsAlias m ++ ">>,",
    m.name ++ "_responder: Mutex<Option<Responder<" ++ argsAlias m ++ ", " ++ m.returnType ++ ">>>,"]

/-- The functions that set a responder and read the calls of a method. -/
def mockAccess (m : MethodView) : Code :=
  [""] ++
  block ("pub fn on_" ++ m.name ++ "(&self, f: impl Fn(&" ++ argsAlias m ++ ") -> " ++ m.returnType ++
      " + Send + Sync + 'static) -> &Self")
    ["*lock(&self." ++ m.name ++ "_responder) = Some(Box::new(f));", "self"] ++
  [""] ++
  block ("pub fn take_" ++ m.name ++ "_calls(&self) -> Vec<" ++ argsAlias m ++ ">")
    ["std::mem::take(&mut *lock(&self." ++ m.name ++ "_calls))"] ++
  [""] ++
  block ("pub fn " ++ m.name ++ "_call_count(&self) -> usize")
    ["lock(&self." ++ m.name ++ "_calls).len()"]

/-- The method that records a call. -/
def mockMethod (m : MethodView) : Code :=
  block m.signature
    (["let args: " ++ argsAlias m ++ " = " ++ m.argsExpr ++ ";"] ++
    blockClosing ("let result = match lock(&self." ++ m.name ++ "_responder).as_ref()")
      ["Some(respond) => respond(&args),", "None => " ++ m.defaultExpr ++ ","] ";" ++
    ["lock(&self." ++ m.name ++ "_calls).push(args);", "result"])

/-- The items of a mock. -/
def mockItems (interface : String) (methods : List MethodView) : List Item :=
  let mock := interface ++ "Mock"
  [.type "Responder" ["type Responder<A, R> = Box<dyn Fn(&A) -> R + Send + Sync>;"]] ++
  setOff (methods.map argsItem) ++
  [ .type mock <|
      ["/// Recording test double for [`" ++ interface ++ "`]", "///",
        "/// Each method records its arguments and answers through the responder set",
        "/// with `on_<method>`, or with `Default::default()` when none is set.",
        "#[derive(Default)]"] ++
      block ("pub struct " ++ mock) (methods.flatMap mockFields),
    .implementation <|
      block ("impl " ++ mock)
        (block "pub fn new() -> Self" ["Self::default()"] ++ methods.flatMap mockAccess),
    .implementation <|
      block ("impl " ++ interface ++ " for " ++ mock) (methods.flatMap mockMethod),
    .function "lock" <|
      block "fn lock<T>(m: &Mutex<T>) -> MutexGuard<'_, T>"
        ["m.lock().unwrap_or_else(|poisoned| poisoned.into_inner())"] ]

/-- The file of a mock. -/
def mockFiles (s : ServiceSpec) : List SourceFile :=
  [{ path := ["mock.rs"]
     doc := "Recording mock"
     imports := addPaths s.imports ["std::sync::Mutex", "std::sync::MutexGuard"]
     items := mockItems s.interfaceName s.views }]

end TransportGen.Artifact

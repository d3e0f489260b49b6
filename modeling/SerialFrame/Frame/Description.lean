import SerialFrame.Frame.Compiler

/-!
# Compilers in logs

A compiler shows its options, on one line or with one option to a line; its clock is left out.
-/

namespace SerialFrame

def Options.described (o : Options) : List (String × String) :=
  [("mode",
      match o.mode with
      | .text => "Text"
      | .hex => "Hex"),
    ("strict", if o.strict then "true" else "false"),
    ("max_container_depth", o.maxContainerDepth.repr),
    ("max_counter_width", o.maxCounterWidth.repr)]

namespace Compiler

def describe (c : Compiler) : String :=
  let fields := c.options.described.map fun (name, value) => name ++ ": " ++ value
  "FrameCompiler \x7b options: CompileOptions \x7b " ++ ", ".intercalate fields ++ " \x7d, .. \x7d"

def describeLines (c : Compiler) : String :=
  let fields := c.options.described.map fun (name, value) => name ++ ": " ++ value ++ ","
  "\n".intercalate
    (["FrameCompiler \x7b", "    options: CompileOptions \x7b"] ++
      fields.map (fun field => "        " ++ field) ++ ["    \x7d,", "    ..", "\x7d"])

end Compiler

end SerialFrame

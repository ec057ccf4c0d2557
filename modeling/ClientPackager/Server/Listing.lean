import ClientPackager.Server.Basic

set_option autoImplicit false

namespace ClientPackager.Server

def samplePackage : String := "@UserService/AccountService"

def dependencyLine (base name : String) : String := s!"  \"{name}\": \"{base}/npm/{name}\""

def lowerFirst (name : String) : String :=
  match name.toList with
  | [] => ""
  | first :: rest => String.ofList (first.toLower :: rest)

def dependencies (base : String) (names : List String) : String :=
  let lines := ",\n".intercalate (names.map (dependencyLine base))
  "# NPM Packages\n\n```json\n\"dependencies\": \x7b\n" ++
    (if names.isEmpty then "" else lines ++ "\n") ++ "\x7d\n```\n\n"

def instructions (base sample : String) : String :=
  let service := lowerFirst (Text.afterLast '/' sample)
  "# How to use?\n\n" ++
  "* Include the dependency in your package.json and run \"yarn install\"\n\n" ++
  "```\n\"dependencies\": \x7b\n" ++ dependencyLine base sample ++ "\n\x7d\n```\n\n" ++
  "* Call the service from your JS code:\n\n" ++
  "```\n" ++
  "const promiseRSocket = require(\"./rsocketClient\").connect(\"ws://localhost:8080/rsocket\");\n" ++
  s!"const {service} = require(\"{sample}\");\n" ++
  s!"{service}.setPromiseRSocket(promiseRSocket);\n" ++
  "```\n"

def listing (server : Server) : String :=
  let base := server.config.publicBaseUrl
  let names := server.catalog.packages.map fun (name, _) => name.text
  dependencies base names ++ instructions base (names.headD samplePackage)

end ClientPackager.Server

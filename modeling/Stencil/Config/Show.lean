import Stencil.Config
import Stencil.Text.Yaml.Writer

/-!
# Showing a configuration

A configuration is shown as the document that would set it, with the names that such a
document has, or as a JSON object with a name for each of its parts.
-/

namespace Stencil.Config

open Bytes

/-- **A configuration as settings.** -/
def toSetting (c : Config) : Setting :=
  .map [("catalog", .map [("source", .text c.catalog.source), ("url", .text c.catalog.url),
      ("roots", .list (c.catalog.roots.map Setting.text)),
      ("timeout", .text (Duration.render c.catalog.timeout))]),
    ("compile", .map [("package_path", .text c.compile.packagePath),
      ("package_name", .text c.compile.packageName), ("root_path", .text c.compile.rootPath),
      ("root_route", .text c.compile.rootRoute), ("jobs", .int c.compile.jobs)]),
    ("server", .map [("host", .text c.server.host), ("port", .int c.server.port),
      ("rate_limit", .int c.server.rateLimit), ("burst", .int c.server.burst),
      ("cache_mb", .int c.server.cacheMegabytes)]),
    ("log", .map [("level", .text c.log.level), ("format", .text c.log.format)])]

/-- The JSON object of a configuration; its timeout is in nanoseconds. -/
def toJson (c : Config) : Json :=
  .obj [("Catalog", .obj [("Source", .str c.catalog.source), ("URL", .str c.catalog.url),
      ("Roots", .arr (c.catalog.roots.map Json.str)), ("Timeout", Json.ofInt c.catalog.timeout)]),
    ("Compile", .obj [("PackagePath", .str c.compile.packagePath),
      ("PackageName", .str c.compile.packageName), ("RootPath", .str c.compile.rootPath),
      ("RootRoute", .str c.compile.rootRoute), ("Jobs", Json.ofInt c.compile.jobs)]),
    ("Server", .obj [("Host", .str c.server.host), ("Port", Json.ofInt c.server.port),
      ("RateLimit", Json.ofInt c.server.rateLimit), ("Burst", Json.ofInt c.server.burst),
      ("CacheMB", Json.ofInt c.server.cacheMegabytes)]),
    ("Log", .obj [("Level", .str c.log.level), ("Format", .str c.log.format)])]

end Stencil.Config

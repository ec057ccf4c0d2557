import ClientPackager.Template.Basic

set_option autoImplicit false

namespace ClientPackager.Template

def scriptPrelude : String := lines [
  ". Do not edit.",
  "const \x7bObservable\x7d = require('rxjs');",
  "const \x7bFlowable\x7d = require('rsocket-flowable');",
  "const \x7bencodeAndAddWellKnownMetadata, MESSAGE_RSOCKET_ROUTING\x7d = require('rsocket-core');",
  "",
  "const maxRSocketRequestN = 2147483647;",
  "",
  "/**",
  " * Routing metadata: the route prefixed by its length.",
  " * @param \x7bstring\x7d route",
  " * @return \x7bBuffer\x7d",
  " */",
  "function requestMetadata(route) \x7b",
  "    return encodeAndAddWellKnownMetadata(",
  "        Buffer.alloc(0),",
  "        MESSAGE_RSOCKET_ROUTING,",
  "        Buffer.from(String.fromCharCode(route.length) + route));",
  "\x7d",
  "",
  "/**",
  " * Encode a parameter as a JSON payload.",
  " * @param \x7b*\x7d param",
  " * @return \x7bBuffer|null\x7d",
  " */",
  "function toJsonBuffer(param) \x7b",
  "    if (param === null || param === undefined) \x7b",
  "        return null;",
  "    \x7d else if (Buffer.isBuffer(param)) \x7b",
  "        return param;",
  "    \x7d else if (typeof param === 'number' || typeof param === 'boolean') \x7b",
  "        return Buffer.from(String(param));",
  "    \x7d else if (typeof param === 'string') \x7b",
  "        return Buffer.from(param);",
  "    \x7d",
  "    return Buffer.from(JSON.stringify(param));",
  "\x7d",
  "",
  "/**",
  " * Decode a JSON payload.",
  " * @param \x7bObject\x7d payload",
  " * @return \x7b*\x7d",
  " */",
  "function fromJsonBuffer(payload) \x7b",
  "    if (payload == null || payload.data == null) \x7b",
  "        return null;",
  "    \x7d",
  "    const text = payload.data.toString();",
  "    return text.length === 0 ? null : JSON.parse(text);",
  "\x7d",
  "",
  "/**",
  " * Normalise channel input into one Flowable.",
  " * @param \x7bArray|Observable|Flowable\x7d param",
  " * @return \x7bFlowable\x7d",
  " */",
  "function toFlowable(param) \x7b",
  "    if (Array.isArray(param)) \x7b",
  "        return Flowable.just(...param);",
  "    \x7d else if (param instanceof Observable) \x7b",
  "        return new Flowable(subscriber => \x7b",
  "            let subscription = null;",
  "            subscriber.onSubscribe(\x7b",
  "                cancel: () => \x7b",
  "                    if (subscription) \x7b",
  "                        subscription.unsubscribe();",
  "                    \x7d",
  "                \x7d,",
  "                request: () => \x7b\x7d",
  "            \x7d);",
  "            subscription = param.subscribe(\x7b",
  "                next: value => subscriber.onNext(value),",
  "                error: error => subscriber.onError(error),",
  "                complete: () => subscriber.onComplete()",
  "            \x7d);",
  "        \x7d);",
  "    \x7d else if (param instanceof Flowable) \x7b",
  "        return param;",
  "    \x7d",
  "    throw new TypeError('request channel expects an Array, Observable or Flowable');",
  "\x7d",
  "",
  "/**",
  " * Emit `initial` before every element of `flowable`.",
  " * @param \x7b*\x7d initial",
  " * @param \x7bFlowable\x7d flowable",
  " * @return \x7bFlowable\x7d",
  " */",
  "function startWith(initial, flowable) \x7b",
  "    return new Flowable(subscriber => \x7b",
  "        let upstream = null;",
  "        let pending = 0;",
  "        let sentInitial = false;",
  "        subscriber.onSubscribe(\x7b",
  "            cancel: () => \x7b",
  "                if (upstream) \x7b",
  "                    upstream.cancel();",
  "                \x7d",
  "            \x7d,",
  "            request: n => \x7b",
  "                let remaining = n;",
  "                if (!sentInitial) \x7b",
  "                    sentInitial = true;",
  "                    subscriber.onNext(initial);",
  "                    remaining -= 1;",
  "                \x7d",
  "                if (remaining > 0) \x7b",
  "                    if (upstream) \x7b",
  "                        upstream.request(remaining);",
  "                    \x7d else \x7b",
  "                        pending += remaining;",
  "                    \x7d",
  "                \x7d",
  "            \x7d",
  "        \x7d);",
  "        flowable.subscribe(\x7b",
  "            onSubscribe: sub => \x7b",
  "                upstream = sub;",
  "                if (pending > 0) \x7b",
  "                    sub.request(pending);",
  "                    pending = 0;",
  "                \x7d",
  "            \x7d,",
  "            onNext: value => subscriber.onNext(value),",
  "            onError: error => subscriber.onError(error),",
  "            onComplete: () => subscriber.onComplete()",
  "        \x7d);",
  "    \x7d);",
  "\x7d",
  ""] ++ "class "

def scriptConstructor : String := lines [
  " \x7b",
  "    constructor() \x7b"] ++ "        this.serviceName = "

def scriptPrimitives : String := lines [
  ";",
  "    \x7d",
  "",
  "    /**",
  "     * rsocket requestResponse",
  "     * @param \x7bstring\x7d methodName",
  "     * @param \x7b*\x7d [param]",
  "     * @return \x7bPromise<Object>\x7d",
  "     */",
  "    rsocketRequestResponse(methodName, param) \x7b",
  "        return this.promiseRSocket.then(rsocket => new Promise((resolve, reject) => \x7b",
  "            rsocket.requestResponse(\x7b",
  "                data: toJsonBuffer(param),",
  "                metadata: requestMetadata(this.serviceName + '.' + methodName)",
  "            \x7d).subscribe(\x7b",
  "                onComplete: payload => resolve(fromJsonBuffer(payload)),",
  "                onError: error => reject(error)",
  "            \x7d);",
  "        \x7d));",
  "    \x7d",
  "",
  "    /**",
  "     * rsocket fireAndForget",
  "     * @param \x7bstring\x7d methodName",
  "     * @param \x7b*\x7d [param]",
  "     * @return \x7bPromise<boolean>\x7d",
  "     */",
  "    rsocketFireAndForget(methodName, param) \x7b",
  "        return this.promiseRSocket.then(rsocket => \x7b",
  "            rsocket.fireAndForget(\x7b",
  "                data: toJsonBuffer(param),",
  "                metadata: requestMetadata(this.serviceName + '.' + methodName)",
  "            \x7d);",
  "            return true;",
  "        \x7d);",
  "    \x7d",
  "",
  "    /**",
  "     * rsocket requestStream",
  "     * @param \x7bstring\x7d methodName",
  "     * @param \x7b*\x7d [param]",
  "     * @return \x7bObservable<Object>\x7d",
  "     */",
  "    rsocketRequestStream(methodName, param) \x7b",
  "        return new Observable(subscriber => \x7b",
  "            let subscription = null;",
  "            this.promiseRSocket.then(rsocket => \x7b",
  "                rsocket.requestStream(\x7b",
  "                    data: toJsonBuffer(param),",
  "                    metadata: requestMetadata(this.serviceName + '.' + methodName)",
  "                \x7d).subscribe(\x7b",
  "                    onComplete: () => subscriber.complete(),",
  "                    onError: error => subscriber.error(error),",
  "                    onNext: payload => subscriber.next(fromJsonBuffer(payload)),",
  "                    onSubscribe: sub => \x7b",
  "                        subscription = sub;",
  "                        sub.request(maxRSocketRequestN);",
  "                    \x7d",
  "                \x7d);",
  "            \x7d, error => subscriber.error(error));",
  "            return () => \x7b",
  "                if (subscription) \x7b",
  "                    subscription.cancel();",
  "                \x7d",
  "            \x7d;",
  "        \x7d);",
  "    \x7d",
  "",
  "    /**",
  "     * rsocket requestChannel",
  "     * @param \x7bstring\x7d methodName",
  "     * @param \x7bArray|Observable|Flowable\x7d param",
  "     * @param \x7b*\x7d [initial]",
  "     * @return \x7bObservable<Object>\x7d",
  "     */",
  "    rsocketRequestChannel(methodName, param, initial) \x7b",
  "        const metadata = requestMetadata(this.serviceName + '.' + methodName);",
  "        return new Observable(subscriber => \x7b",
  "            let frames;",
  "            try \x7b",
  "                if (initial === undefined && Array.isArray(param) && param.length === 0) \x7b",
  "                    throw new TypeError('request channel needs at least one frame');",
  "                \x7d",
  "                frames = toFlowable(param);",
  "            \x7d catch (error) \x7b",
  "                subscriber.error(error);",
  "                return undefined;",
  "            \x7d",
  "            if (initial !== undefined) \x7b",
  "                frames = startWith(initial, frames);",
  "            \x7d",
  "            let subscription = null;",
  "            this.promiseRSocket.then(rsocket => \x7b",
  "                rsocket.requestChannel(frames.map(value => (\x7b",
  "                    data: toJsonBuffer(value),",
  "                    metadata: metadata",
  "                \x7d))).subscribe(\x7b",
  "                    onComplete: () => subscriber.complete(),",
  "                    onError: error => subscriber.error(error),",
  "                    onNext: payload => subscriber.next(fromJsonBuffer(payload)),",
  "                    onSubscribe: sub => \x7b",
  "                        subscription = sub;",
  "                        sub.request(maxRSocketRequestN);",
  "                    \x7d",
  "                \x7d);",
  "            \x7d, error => subscriber.error(error));",
  "            return () => \x7b",
  "                if (subscription) \x7b",
  "                    subscription.cancel();",
  "                \x7d",
  "            \x7d;",
  "        \x7d);",
  "    \x7d",
  "",
  "    /**",
  "     * set rsocket",
  "     * @param \x7bPromise<ReactiveSocket>\x7d promiseRSocket"] ++ "     * @return "

def scriptReceiver : String := lines [
  "",
  "     */",
  "    setPromiseRSocket(promiseRSocket) \x7b",
  "        this.promiseRSocket = promiseRSocket;",
  "        return this;",
  "    \x7d"]

def scriptExport : String := lines [
  "\x7d",
  ""] ++ "module.exports = new "

def typedefHeading : String := lines [
  "();",
  "",
  "//================ JSDoc typedef ========================//"]

def scriptModule : Template := [
  .text "// Generated from ",
  .value ["generated_from"],
  .text scriptPrelude,
  .value ["class_name"],
  .text scriptConstructor,
  .call "json" [.field ["route"]],
  .text scriptPrimitives,
  .value ["class_type"],
  .text scriptReceiver,
  .block "if" [.field ["methods"]] [
    .text "\n",
    .value ["methods"],
    .text "\n"] none,
  .text scriptExport,
  .value ["class_name"],
  .text typedefHeading,
  .block "if" [.field ["typedefs"]] [
    .value ["typedefs"],
    .text "\n"] none]

def scriptMethod : Template := [
  .text "    /**\n",
  .block "each" [.field ["doc"]] [
    .text "     * ",
    .value [],
    .text "\n"] none,
  .text "     */\n    ",
  .value ["name"],
  .text "(",
  .value ["params"],
  .text ") \x7b\n        return this.",
  .value ["primitive"],
  .text "(",
  .call "json" [.field ["name"]],
  .value ["args"],
  .text (lines [
    ");",
    "    \x7d"])]

def scriptTypedef : Template := [
  .text "/**\n * @typedef \x7bObject\x7d ",
  .value ["name"],
  .text "\n",
  .block "each" [.field ["properties"]] [
    .text " * @property ",
    .value ["type"],
    .text " ",
    .value ["name"],
    .block "if" [.field ["description"]] [
      .text " ",
      .value ["description"]] none,
    .text "\n"] none,
  .text " */\n"]

def declarationPrelude : String := lines [
  ". Do not edit.",
  "import \x7bObservable\x7d from 'rxjs';",
  "import \x7bFlowable\x7d from 'rsocket-flowable';",
  "",
  "/**",
  " * set Promise RSocket",
  " * @param promiseRSocket Promise RSocket",
  " */",
  "export function setPromiseRSocket(promiseRSocket: Promise<any>): void;"]

def classHeading : String := lines [
  "",
  "//================ TypeScript Class ========================//"]

def declarationModule : Template := [
  .text "// Generated from ",
  .value ["generated_from"],
  .text declarationPrelude,
  .block "if" [.field ["functions"]] [
    .text "\n",
    .value ["functions"],
    .text "\n"] none,
  .text classHeading,
  .block "if" [.field ["classes"]] [
    .value ["classes"],
    .text "\n"] none]

def declarationFunction : Template := [
  .block "if" [.field ["doc"]] [
    .text "/**\n",
    .block "each" [.field ["doc"]] [
      .text " * ",
      .value [],
      .text "\n"] none,
    .text " */\n"] none,
  .block "if" [.field ["alias"]] [
    .text "declare function ",
    .value ["alias"],
    .text "(",
    .value ["params"],
    .text "): ",
    .value ["returns"],
    .text ";\nexport \x7b ",
    .value ["alias"],
    .text " as ",
    .value ["name"],
    .text " \x7d;\n"] none,
  .block "unless" [.field ["alias"]] [
    .text "export function ",
    .value ["name"],
    .text "(",
    .value ["params"],
    .text "): ",
    .value ["returns"],
    .text ";\n"] none]

def declarationClass : Template := [
  .text "declare class ",
  .value ["name"],
  .text " \x7b\n",
  .block "each" [.field ["properties"]] [
    .text "    ",
    .value ["name"],
    .text ": ",
    .value ["type"],
    .text ";\n"] none,
  .text "\x7d\n"]

def builtIn : List (String × Template) := [
  ("rsocket/index.js", scriptModule),
  ("rsocket/method.js", scriptMethod),
  ("rsocket/typedef.js", scriptTypedef),
  ("rsocket/index.d.ts", declarationModule),
  ("rsocket/function.d.ts", declarationFunction),
  ("rsocket/class.d.ts", declarationClass)]

end ClientPackager.Template
